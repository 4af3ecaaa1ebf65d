import TemplateJsx.Jsx.Print
import TemplateJsx.Proofs.PathForms
import TemplateJsx.Proofs.Quoting

/-
  Dotted paths print as they are written. A text of legal
  names with dots between them is taken apart into its names,
  built up again as a member path, and printed with a dot
  before every name. The path of an argument loses its `@`
  and is looked up in the object of arguments.

  Key definitions include:
    * `Resolve.IsDotted`
    * `Resolve.PrintsAs`

  Main declarations:
    * `Jsx.print_extend`
    * `Resolve.isDotted_iff`
    * `Resolve.PrintsAs.exists_head`
    * `Resolve.PrintsAs.exists_path`
    * `Resolve.dotted_path_printed`
-/

------------------------------------------------------------
-- Printed Member Paths
------------------------------------------------------------

namespace TemplateJsx

namespace Jsx

/- A legal name is accessed by a dot. -/
theorem print_append
    {base : Expr}
    {name : String}
    (hBase : base.precedence = Precedence.member)
    (hName : Text.IsLegalName name) :
    (base.append name).print = base.print ++ "." ++ name := by
  unfold Expr.append
  rw [Expr.print, hBase, enclose, if_neg (Nat.lt_irrefl _),
    printAccess, if_pos hName, String.append_assoc]

/- A path that goes on along legal names has dots between them. -/
theorem print_extend
    {base : Expr}
    {names : List String}
    (hBase : base.precedence = Precedence.member)
    (hNames : ∀ name ∈ names, Text.IsLegalName name) :
    (base.extend names).print =
      Text.joinWith "." (base.print :: names) := by
  induction names generalizing base with
  | nil => rfl
  | cons name names ih =>
      rw [List.forall_mem_cons] at hNames
      have hStep :
          base.extend (name :: names) =
            (base.append name).extend names := rfl
      rw [hStep, ih rfl hNames.2, print_append hBase hNames.1,
        Text.joinWith_append_cons, String.append_assoc]
      rfl

/- What is called is printed in front of its arguments. -/
theorem print_call
    {target : Expr}
    (hTarget : target.precedence = Precedence.member)
    (arguments : List Expr) :
    (Expr.call target arguments).print =
      target.print ++ "("
        ++ Text.joinWith ", " (printArguments arguments)
        ++ ")" := by
  rw [Expr.print, hTarget, enclose, if_neg (Nat.lt_irrefl _)]

theorem precedence_extend
    {base : Expr}
    (hBase : base.precedence = Precedence.member)
    (names : List String) :
    (base.extend names).precedence = Precedence.member := by
  induction names generalizing base with
  | nil => exact hBase
  | cons name names ih => exact ih rfl

end Jsx

------------------------------------------------------------
-- Dotted Texts
------------------------------------------------------------

namespace Resolve

/- Legal names with dots between them. -/
inductive IsDotted : String → Prop
  | name
      {name : String}
      (hName : Text.IsLegalName name) :
      IsDotted name
  | dot
      {name rest : String}
      (hName : Text.IsLegalName name)
      (hRest : IsDotted rest) :
      IsDotted (name ++ ("." ++ rest))

theorem not_mem_of_isLegalName
    {name : String}
    (hName : Text.IsLegalName name) :
    '.' ∉ name.toList := by
  have hAll := Jsx.all_isNameRest_of_isName hName
  intro hDot
  exact absurd (List.all_eq_true.mp hAll '.' hDot) (by decide)

theorem IsDotted.exists_names
    {text : String}
    (hDotted : IsDotted text) :
    ∃ head tail,
      text = Text.joinWith "." (head :: tail) ∧
        ∀ name ∈ head :: tail, Text.IsLegalName name := by
  induction hDotted with
  | @name name hName =>
      exact ⟨name, [], rfl, List.forall_mem_singleton.mpr hName⟩
  | @dot name rest hName _ ih =>
      rcases ih with ⟨head, tail, rfl, hNames⟩
      exact ⟨name, head :: tail, rfl,
        List.forall_mem_cons.mpr ⟨hName, hNames⟩⟩

theorem isDotted_joinWith
    {head : String}
    {tail : List String}
    (hNames : ∀ name ∈ head :: tail, Text.IsLegalName name) :
    IsDotted (Text.joinWith "." (head :: tail)) := by
  induction tail generalizing head with
  | nil => exact .name (hNames head List.mem_cons_self)
  | cons next tail ih =>
      rw [List.forall_mem_cons] at hNames
      exact .dot hNames.1 (ih hNames.2)

/- A dotted text is one whose parts between dots are legal. -/
theorem isDotted_iff
    (text : String) :
    IsDotted text ↔
      ∀ name ∈ Text.splitAt '.' text, Text.IsLegalName name := by
  constructor
  · intro hDotted
    rcases hDotted.exists_names with ⟨head, tail, rfl, hNames⟩
    have hSplit :
        Text.splitAt '.' (Text.joinWith "." (head :: tail)) =
          head :: tail :=
      Text.splitAt_joinWith rfl (List.cons_ne_nil head tail)
        fun name hMember =>
          not_mem_of_isLegalName (hNames name hMember)
    rw [hSplit]
    exact hNames
  · intro hNames
    have hText :
        Text.joinWith "." (Text.splitAt '.' text) = text :=
      Text.joinWith_splitAt rfl text
    cases hParts : Text.splitAt '.' text with
    | nil => exact absurd hParts (Text.splitAt_ne_nil '.' text)
    | cons head tail =>
        rw [hParts] at hNames hText
        rw [← hText]
        exact isDotted_joinWith hNames

instance (text : String) : Decidable (IsDotted text) :=
  decidable_of_iff _ (isDotted_iff text).symm

/-
  What a dotted path is printed as: itself, or the property
  of `args` that an argument stands for.
-/
inductive PrintsAs : String → String → Prop
  | plain
      {text : String}
      (hDotted : IsDotted text) :
      PrintsAs text text
  | argument
      {text : String}
      (hDotted : IsDotted text) :
      PrintsAs ("@" ++ text) ("args." ++ text)

/- A legal name is not empty and does not start with `@`. -/
theorem isProper_argument
    {name : String}
    (hName : Text.IsLegalName name) :
    (Template.Head.argument name).IsProper := by
  unfold Text.IsLegalName at hName
  constructor
  · rintro rfl
    cases hName
  · intro hFirst
    rcases List.head?_eq_some_iff.mp hFirst with ⟨rest, hChars⟩
    rw [hChars, Text.isName, Bool.and_eq_true] at hName
    exact absurd hName.1 (by decide)

/- A legal name is a head by itself. -/
theorem exists_head_of_isLegalName
    {name : String}
    (hName : Text.IsLegalName name) :
    ∃ head : Template.Head, head.IsProper ∧ head.text = name ∧
      head.reference = .identifier name := by
  by_cases hThis : name = "this"
  · exact ⟨.this, trivial, hThis.symm, by rw [hThis]; rfl⟩
  · have hProper := isProper_argument hName
    exact ⟨.plain name, ⟨hProper.1, hProper.2, hThis⟩, rfl, rfl⟩

/-
  A dotted path has a head and a tail of legal names, and is
  printed as what the head refers to with the tail behind it.
-/
theorem PrintsAs.exists_head
    {spelling printed : String}
    (hPrints : PrintsAs spelling printed) :
    ∃ (head : Template.Head) (tail : List String),
      head.IsProper ∧
        (∀ name ∈ head.text :: tail, '.' ∉ name.toList) ∧
        (∀ name ∈ tail, Text.IsLegalName name) ∧
        head.reference.precedence = Jsx.Precedence.member ∧
        spelling = Text.joinWith "." (head.text :: tail) ∧
        printed =
          Text.joinWith "." (head.reference.print :: tail) := by
  cases hPrints with
  | plain hDotted =>
      rcases hDotted.exists_names with ⟨name, tail, hText, hNames⟩
      have hDots : ∀ part ∈ name :: tail, '.' ∉ part.toList :=
        fun part hMember =>
          not_mem_of_isLegalName (hNames part hMember)
      rw [List.forall_mem_cons] at hNames
      rcases exists_head_of_isLegalName hNames.1 with
        ⟨head, hProper, hWritten, hReference⟩
      refine ⟨head, tail, hProper, ?_, hNames.2, ?_, ?_, ?_⟩
      · rw [hWritten]
        exact hDots
      · rw [hReference]
        rfl
      · rw [hWritten]
        exact hText
      · rw [hReference]
        exact hText
  | @argument text hDotted =>
      rcases hDotted.exists_names with ⟨name, tail, rfl, hNames⟩
      rw [List.forall_mem_cons] at hNames
      have hDot := not_mem_of_isLegalName hNames.1
      have hReference :
          (Template.Head.argument name).reference.print =
            "args." ++ name :=
        Jsx.print_append rfl hNames.1
      refine ⟨.argument name, tail, isProper_argument hNames.1,
        ?_, hNames.2, rfl, ?_, ?_⟩
      · refine List.forall_mem_cons.mpr ⟨?_, fun part hMember =>
          not_mem_of_isLegalName (hNames.2 part hMember)⟩
        simpa [Template.Head.text] using hDot
      · exact (Text.joinWith_append_cons "." "@" name tail).symm
      · rw [hReference, Text.joinWith_append_cons]

/- A dotted path has members, which are printed as it says. -/
theorem PrintsAs.exists_path
    {spelling printed : String}
    (span : Option Span)
    (hPrints : PrintsAs spelling printed) :
    ∃ e : Jsx.Expr,
      path (.ofSpelling spelling span) = .ok e ∧
        e.precedence = Jsx.Precedence.member ∧
        e.print = printed := by
  rcases hPrints.exists_head with
    ⟨head, tail, hProper, hDots, hNames, hTight, rfl, rfl⟩
  have hRead := Template.Path.ofSpelling_joinWith span
    (Template.Head.text_ne_empty hProper) hDots
  refine ⟨head.reference.extend tail, ?_,
    Jsx.precedence_extend hTight tail,
    Jsx.print_extend hTight hNames⟩
  rw [hRead]
  exact Template.path_of_head hProper rfl

------------------------------------------------------------
-- Dotted Paths in Print
------------------------------------------------------------

/-
  A dotted path is printed as it is written, with `args.` for
  the `@` of an argument. Wherever there is room it is
  resolved. Where it is called, the call is resolved if its
  arguments are, and the same text stands in front of them.
-/
theorem dotted_path_printed
    (spelling printed : String)
    (span : Option Span)
    (hPrints : PrintsAs spelling printed) :
    let target : Template.Expr :=
      .path (.ofSpelling spelling span)
    ∃ e : Jsx.Expr,
      e.print = printed ∧
        (∀ (config : Config) (depth : Nat),
          ¬ (0 < config.maxDepth ∧ config.maxDepth ≤ depth) →
          expression config depth target = .ok e) ∧
        (∀ (config : Config) (depth : Nat)
            (node : Template.Node) (i : Template.Invocation),
          node.invocation? = some i → i.callee = target →
          ∀ call,
            helperCallOf config depth node = .ok call ↔
              ∃ positional named,
                expressions config depth i.params =
                    .ok positional ∧
                  namedArguments config depth i.hash.pairs =
                    .ok named ∧
                  call = .call e
                    (positional ++ [hashObject named])) ∧
        ∀ arguments : List Jsx.Expr,
          (Jsx.Expr.call e arguments).print =
            printed ++ "("
              ++ Text.joinWith ", " (Jsx.printArguments arguments)
              ++ ")" := by
  intro target
  rcases hPrints.exists_path span with
    ⟨e, hPath, hTight, hPrinted⟩
  have hCallee : callee target = e := by
    rw [callee, hPath]
  refine ⟨e, hPrinted, ?_, ?_, ?_⟩
  · intro config depth hRoom
    exact (expression_path_eq_ok_iff hPath).mpr ⟨hRoom, rfl⟩
  · intro config depth node i hInvocation hTarget call
    have hNode :
        helperCallOf config depth node =
          helperCall config depth i := by
      simp only [helperCallOf, hInvocation]
    rw [hNode, ← hCallee, ← hTarget]
    constructor
    · exact helperCall_eq_ok
    · rintro ⟨positional, named, hParams, hNamed, rfl⟩
      rcases i with ⟨_, params, ⟨pairs, _⟩⟩
      rw [helperCall, hParams, hNamed]
      rfl
  · intro arguments
    rw [Jsx.print_call hTight, hPrinted]

/- An argument's method, called with `true`. -/
def methodCall : Template.Invocation :=
  ⟨.path (.ofSpelling "@model.$set.x_1" none),
    [.boolean true none], .empty⟩

/- The path of an argument, alone and as a callee. -/
theorem dotted_path_printed_argument :
    PrintsAs "@model.$set.x_1" "args.model.$set.x_1" ∧
      (∃ e,
        expression .default 0 methodCall.callee = .ok e ∧
          e.print = "args.model.$set.x_1") ∧
      ∃ call,
        helperCallOf .default 0 (.expr (.call methodCall none)) =
            .ok call ∧
          call.print =
            "args.model.$set.x_1(true, \x7b hash: \x7b\x7d \x7d)" := by
  have hPrints :
      PrintsAs ("@" ++ "model.$set.x_1")
        ("args." ++ "model.$set.x_1") :=
    .argument (by decide)
  rcases dotted_path_printed "@model.$set.x_1"
      "args.model.$set.x_1" none hPrints with
    ⟨e, hPrint, hResolved, hCalled, hCall⟩
  refine ⟨hPrints, ⟨e, hResolved .default 0 (by decide), hPrint⟩,
    .call e [.boolean true, hashObject []], ?_, ?_⟩
  · exact (hCalled .default 0 _ methodCall rfl rfl _).mpr
      ⟨[.boolean true], [], rfl, rfl, rfl⟩
  · rw [hCall]
    decide

end Resolve

end TemplateJsx
