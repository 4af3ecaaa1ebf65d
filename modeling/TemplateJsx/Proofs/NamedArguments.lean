import Mathlib.Data.List.Forall2
import TemplateJsx.Proofs.Literals
import TemplateJsx.Proofs.Quoting
import TemplateJsx.Resolve.Resolver

/-
  Named arguments in print. Whatever an invocation is
  resolved with, its named arguments come out in order and
  under their own keys, as properties of the object that is
  passed last. In front of the colon a key is printed as a
  name or as a literal that stands for it, but for the empty
  key, of which nothing is printed.

  Key definitions include:
    * `Jsx.NamesProperty`
    * `Jsx.PrintsKey`

  Main declarations:
    * `Jsx.namesProperty_nameOrQuoted_iff`
    * `Resolve.helperCall_found`
    * `Resolve.argument_keys_named_iff`
-/

------------------------------------------------------------
-- Printed Keys
------------------------------------------------------------

namespace TemplateJsx

namespace Jsx

/-
  A text that may stand in front of a colon for a key: a
  legal name stands for itself, and a literal, which must
  not run over the end of a line, for its text.
-/
inductive NamesProperty : String → String → Prop
  | name {key : String} :
      Text.IsLegalName key →
      NamesProperty key key
  | literal {literal key : String} {inside : List Char} :
      IsLiteral literal inside key →
      NamesProperty literal key

/- Nothing stands for no key, not even the empty one. -/
theorem NamesProperty.ne_empty
    {name key : String}
    (hNames : NamesProperty name key) :
    name ≠ "" := by
  rintro rfl
  cases hNames with
  | name hName => cases hName
  | literal hLiteral => cases hLiteral.quoted

/- Every key but the empty one is printed as what names it. -/
theorem namesProperty_nameOrQuoted_iff
    (key : String) :
    NamesProperty (nameOrQuoted false key) key ↔ key ≠ "" := by
  constructor
  · rintro hNames rfl
    exact hNames.ne_empty rfl
  · intro hKey
    rcases nameOrQuoted_eq hKey with ⟨hName, hSame⟩ | hQuoted
    · rw [hSame]
      exact .name hName
    · rw [hQuoted]
      exact .literal (isLiteral_singleQuoted false key)

/-
  A property is printed for a key: in front of the colon
  before its value stands what names the key, unless the key
  is empty.
-/
structure PrintsKey
    (property : Property)
    (key : String)
    (name : String)
    (value : Expr) : Prop where
  same : property = .mk key value
  printed :
    property.print =
      name ++ ": "
        ++ enclose Precedence.arrow value.precedence value.print
  named : name ≠ "" ∧ NamesProperty name key ↔ key ≠ ""

theorem printsKey_mk
    (key : String)
    (value : Expr) :
    PrintsKey (.mk key value) key (nameOrQuoted false key)
      value where
  same := rfl
  printed := by rw [Property.print]
  named := by
    constructor
    · exact fun hNames =>
        (namesProperty_nameOrQuoted_iff key).mp hNames.2
    · intro hKey
      have hNames := (namesProperty_nameOrQuoted_iff key).mpr hKey
      exact ⟨hNames.ne_empty, hNames⟩

------------------------------------------------------------
-- The Object That Is Passed Last
------------------------------------------------------------

theorem printArguments_append
    (front last : List Expr) :
    printArguments (front ++ last) =
      printArguments front ++ printArguments last := by
  induction front with
  | nil => rfl
  | cons e rest ih =>
      rw [List.cons_append, printArguments, printArguments, ih,
        List.cons_append]

/- Joined texts end with the last of them. -/
theorem exists_joinWith_append
    (sep : String)
    (texts : List String)
    (last : String) :
    ∃ front, Text.joinWith sep (texts ++ [last]) =
      front ++ last := by
  induction texts with
  | nil => exact ⟨"", by simp [Text.joinWith]⟩
  | cons s rest ih =>
      rcases ih with ⟨front, hJoin⟩
      cases rest with
      | nil =>
          exact ⟨s ++ sep, by simp [Text.joinWith,
            String.append_assoc]⟩
      | cons t rest =>
          refine ⟨s ++ (sep ++ front), ?_⟩
          simp only [List.cons_append] at hJoin ⊢
          rw [Text.joinWith, hJoin]
          simp only [String.append_assoc]

/- A call ends with the last of its arguments. -/
theorem exists_print_call
    (target : Expr)
    (positional : List Expr)
    (last : Expr) :
    ∃ front,
      (Expr.call target (positional ++ [last])).print =
        front
          ++ enclose Precedence.arrow last.precedence last.print
          ++ ")" := by
  rw [Expr.print, printArguments_append]
  rcases exists_joinWith_append ", " (printArguments positional)
      (enclose Precedence.arrow last.precedence last.print) with
    ⟨front, hJoin⟩
  refine ⟨enclose Precedence.member target.precedence
    target.print ++ "(" ++ front, ?_⟩
  simp only [printArguments, hJoin, String.append_assoc]

end Jsx

------------------------------------------------------------
-- Results of a Resolver
------------------------------------------------------------

namespace Resolve

variable {α β : Type}
variable {depth after : Int}

/- A result of two steps has a result of the first. -/
theorem bind_found
    {x : Counting α}
    {f : α → Counting β}
    {b : β}
    (hFound : (x >>= f) depth = some (.ok b, after)) :
    ∃ a between, x depth = some (.ok a, between) ∧
      f a between = some (.ok b, after) := by
  change Option.bind (x depth) _ = _ at hFound
  cases hFirst : x depth with
  | none =>
      rw [hFirst] at hFound
      cases hFound
  | some found =>
      rw [hFirst] at hFound
      rcases found with ⟨outcome, between⟩
      cases outcome with
      | error e => cases hFound
      | ok a => exact ⟨a, between, rfl, hFound⟩

/- Results are found one by one. -/
theorem mapM_found
    {R : α → β → Prop}
    {f : α → Counting β}
    (hEach : ∀ a depth b after,
      f a depth = some (.ok b, after) → R a b)
    {as : List α}
    {bs : List β}
    (hFound : as.mapM f depth = some (.ok bs, after)) :
    List.Forall₂ R as bs := by
  induction as generalizing depth after bs with
  | nil =>
      cases hFound
      exact .nil
  | cons a rest ih =>
      rw [List.mapM_cons] at hFound
      rcases bind_found hFound with
        ⟨b, between, hFirst, hFound⟩
      rcases bind_found hFound with
        ⟨others, last, hRest, hFound⟩
      cases hFound
      exact .cons (hEach a depth b between hFirst) (ih hRest)

/-
  An invocation that is accepted is a call with one object
  at the end, whose properties have the keys of the named
  arguments. This does not depend on who resolves the
  arguments.
-/
theorem helperCall_found
    {self : Resolver}
    {node : Template.Node}
    {e : Jsx.Expr}
    (hFound :
      self.helperCall node depth = some (.ok e, after)) :
    ∃ i positional named,
      node.invocation? = some i ∧
        e = .call (callee i.callee)
          (positional ++ [hashObject named]) ∧
        List.Forall₂
          (fun (pair : Template.Pair) property =>
            ∃ value, property = .mk pair.key value)
          i.hash.pairs named := by
  unfold Resolver.helperCall at hFound
  cases hInvocation : node.invocation? with
  | none =>
      rw [hInvocation] at hFound
      cases hFound
  | some i =>
      rw [hInvocation] at hFound
      rcases bind_found hFound with
        ⟨positional, _, _, hFound⟩
      rcases bind_found hFound with
        ⟨named, _, hNamed, hFound⟩
      cases hFound
      refine ⟨i, positional, named, rfl, rfl,
        mapM_found ?_ hNamed⟩
      intro pair depth property after hPair
      rcases bind_found hPair with ⟨value, _, _, hPair⟩
      cases hPair
      exact ⟨value, rfl⟩

------------------------------------------------------------
-- Keys of Accepted Invocations
------------------------------------------------------------

/- The object that is passed last, in print. -/
theorem print_hashObject
    (named : List Jsx.Property) :
    Jsx.enclose Jsx.Precedence.arrow
        (hashObject named).precedence (hashObject named).print =
      "\x7b hash: " ++ (Jsx.Expr.object named).print
        ++ " \x7d" := by
  have hName : Jsx.nameOrQuoted false hashName = "hash" := by
    decide
  have hObject :
      Jsx.enclose Jsx.Precedence.arrow
          (Jsx.Expr.object named).precedence
          (Jsx.Expr.object named).print =
        (Jsx.Expr.object named).print :=
    rfl
  unfold hashObject
  change (Jsx.Expr.object [_]).print = _
  rw [Jsx.Expr.print, Jsx.printProperties, Jsx.printProperties,
    Jsx.Property.print, hName, hObject, Text.joinWith]
  · simp only [← String.append_assoc]
    rfl
  · exact List.cons_ne_nil _ _

/-
  Named arguments keep their keys in print. Whatever rules
  the resolver follows and however deep it is, in a call that
  it accepts the last argument is the object of named
  arguments, with one property for each of them, and what is
  printed in front of the colon names the key exactly if the
  key is not empty.
-/
theorem argument_keys_named_iff
    (config : Config)
    (rules : Collaborators)
    (room : Nat)
    (node : Template.Node)
    (depth after : Int)
    (call : Jsx.Expr)
    (hAccepted :
      resolver config rules room (.helperCall node) depth =
        some (.ok call, after)) :
    ∃ i positional named front,
      node.invocation? = some i ∧
        call = .call (callee i.callee)
          (positional ++ [hashObject named]) ∧
        call.print =
          front ++ "\x7b hash: "
            ++ (Jsx.Expr.object named).print ++ " \x7d)" ∧
        List.Forall₂
          (fun (pair : Template.Pair) property =>
            ∃ name value,
              Jsx.PrintsKey property pair.key name value)
          i.hash.pairs named := by
  cases room with
  | zero => cases hAccepted
  | succ room =>
      rcases helperCall_found hAccepted with
        ⟨i, positional, named, hInvocation, rfl, hKeys⟩
      rcases Jsx.exists_print_call (callee i.callee) positional
          (hashObject named) with ⟨front, hPrint⟩
      refine ⟨i, positional, named, front, hInvocation, rfl,
        ?_, ?_⟩
      · rw [hPrint, print_hashObject]
        simp only [String.append_assoc]
        rfl
      · refine hKeys.imp fun pair property => ?_
        rintro ⟨value, rfl⟩
        exact ⟨_, value, Jsx.printsKey_mk pair.key value⟩

/- A name without dots. -/
def plainPath (name : String) : Template.Expr :=
  .path ⟨name, name, [], none⟩

/- The invocation of `f` with `x` and one named argument. -/
def keyed (key : String) : Template.Node :=
  .statement
    (.mustache
      ⟨⟨plainPath "f", [plainPath "x"],
          ⟨[⟨key, plainPath "y", none⟩], none⟩⟩, false, none⟩)

/- A key that is no name is printed as a literal. -/
theorem argument_keys_named_iff_quoted :
    ∃ call,
      resolver .default .standard 2
            (.helperCall (keyed "it's")) 0 =
          some (.ok call, 0) ∧
        call.print = "f(x, \x7b hash: \x7b 'it\\'s': y \x7d \x7d)" ∧
        ∃ named front property name value,
          call.print =
              front ++ "\x7b hash: "
                ++ (Jsx.Expr.object named).print ++ " \x7d)" ∧
            property ∈ named ∧
            Jsx.PrintsKey property "it's" name value ∧
            Jsx.NamesProperty name "it's" := by
  refine ⟨_, rfl, by decide, ?_⟩
  rcases argument_keys_named_iff .default .standard 2
      (keyed "it's") 0 0 _ rfl with
    ⟨i, positional, named, front, hInvocation, _, hPrint,
      hKeys⟩
  cases hInvocation
  cases hKeys with
  | cons hKey _ =>
      rcases hKey with ⟨name, value, hKey⟩
      have hNames := hKey.named.mpr (by decide)
      exact ⟨_, front, _, name, value, hPrint,
        List.mem_cons_self, hKey, hNames.2⟩

/- The empty key is printed as nothing, which names no key. -/
theorem argument_key_lost :
    let property : Jsx.Property := .mk "" (.identifier "y")
    let call : Jsx.Expr :=
      .call (.identifier "f")
        [.identifier "x", hashObject [property]]
    resolver .default .standard 2 (.helperCall (keyed "")) 0 =
        some (.ok call, 0) ∧
      call.print = "f(x, \x7b hash: \x7b : y \x7d \x7d)" ∧
      ∀ name, property.print = name ++ ": " ++ "y" →
        ¬ Jsx.NamesProperty name "" := by
  refine ⟨rfl, by decide, ?_⟩
  intro name hPrint hNames
  have hNothing : "" ++ ": " ++ "y" = name ++ ": " ++ "y" :=
    hPrint
  rw [String.append_left_inj, String.append_left_inj] at hNothing
  exact hNames.ne_empty hNothing.symm

end Resolve

end TemplateJsx
