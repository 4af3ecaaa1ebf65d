import TemplateJsx.Proofs.Success

/-
  The algebra of member paths. A path is a list of names that
  can be lengthened at both ends: at its end by going on from
  the tree, at its front by rebuilding the tree from the head
  on. Read as lists of names, the two do not interfere with
  each other.

  Key definitions include:
    * `Jsx.Expr.names?`
    * `Jsx.Expr.IsPath`
    * `Jsx.PathStep`

  Main declarations:
    * `Jsx.names?_eq_some_iff`
    * `Jsx.prepend_eq_ok_iff`
    * `Jsx.PathStep.foldlM_apply`
    * `Jsx.member_path_algebra`
-/

------------------------------------------------------------
-- The Names along a Path
------------------------------------------------------------

namespace TemplateJsx

namespace Jsx

namespace Expr

/- The names along an expression, if it is a path. -/
def names? : Expr → Option (List String)
  | .identifier name => some [name]
  | .member base property =>
      base.names?.map (· ++ [property])
  | _ => none

/- An expression that is the path along some names. -/
def IsPath (p : Expr) : Prop :=
  ∃ names, names ≠ [] ∧ ofSegments names = .ok p

end Expr

/- A path that goes on has the names it goes on along. -/
theorem names?_extend
    (base : Expr)
    (names : List String) :
    (base.extend names).names? =
      base.names?.map (· ++ names) := by
  induction names generalizing base with
  | nil =>
      have hSame : (· ++ ([] : List String)) = id :=
        funext List.append_nil
      rw [hSame, Option.map_id]
      rfl
  | cons name names ih =>
      have hStep :
          base.extend (name :: names) =
            (base.append name).extend names := rfl
      rw [hStep, ih, Expr.append, Expr.names?, Option.map_map]
      congr 1
      funext front
      simp

/- A path that goes on by one name more. -/
theorem extend_concat
    (base : Expr)
    (names : List String)
    (name : String) :
    base.extend (names ++ [name]) =
      (base.extend names).append name :=
  List.foldl_append

/- What has names is the path along them. -/
theorem ofSegments_of_names?
    {p : Expr}
    {names : List String}
    (hNames : p.names? = some names) :
    Expr.ofSegments names = .ok p := by
  fun_induction Expr.names? p generalizing names with
  | case1 name =>
      cases hNames
      rfl
  | case2 base property ih =>
      rcases Option.map_eq_some_iff.mp hNames with
        ⟨front, hFront, rfl⟩
      have hBase := ih hFront
      cases front with
      | nil => cases hBase
      | cons head tail =>
          cases hBase
          rw [List.cons_append, Expr.ofSegments, extend_concat]
          rfl
  | case3 => cases hNames

/- A path is built along its names and along no others. -/
theorem names?_eq_some_iff
    {p : Expr}
    {names : List String} :
    p.names? = some names ↔ Expr.ofSegments names = .ok p := by
  refine ⟨ofSegments_of_names?, ?_⟩
  intro hPath
  cases names with
  | nil => cases hPath
  | cons head tail =>
      cases hPath
      rw [names?_extend]
      rfl

/- The names of a path are some names. -/
theorem isPath_iff
    (p : Expr) :
    p.IsPath ↔ ∃ names, p.names? = some names := by
  constructor
  · rintro ⟨names, _, hPath⟩
    exact ⟨names, names?_eq_some_iff.mpr hPath⟩
  · rintro ⟨names, hNames⟩
    have hPath := names?_eq_some_iff.mp hNames
    refine ⟨names, ?_, hPath⟩
    rintro rfl
    cases hPath

------------------------------------------------------------
-- Names in Front
------------------------------------------------------------

/- A name is put in front of the names of a path. -/
theorem prepend_of_names?
    {p : Expr}
    {names : List String}
    (segment : String)
    (hNames : p.names? = some names) :
    p.prepend segment = Expr.ofSegments (segment :: names) := by
  have hPath := names?_eq_some_iff.mp hNames
  cases names with
  | nil => cases hPath
  | cons head tail =>
      cases hPath
      exact prepend_extend tail rfl

/- What has no names has no front. -/
theorem prepend_of_names?_eq_none
    {p : Expr}
    (segment : String)
    (hNone : p.names? = none) :
    p.prepend segment = .error .notAPath := by
  fun_induction Expr.names? p with
  | case1 name => cases hNone
  | case2 base property ih =>
      rw [Expr.prepend, ih (Option.map_eq_none_iff.mp hNone)]
      rfl
  | case3 p hIdentifier hMember =>
      rw [Expr.prepend]
      · exact hIdentifier
      · exact hMember

/- Only a path has a front. -/
theorem prepend_eq_ok_iff
    (segment : String)
    (p : Expr) :
    (∃ q, p.prepend segment = .ok q) ↔ p.IsPath := by
  rw [isPath_iff]
  cases hNames : p.names? with
  | none =>
      rw [prepend_of_names?_eq_none segment hNames]
      simp
  | some names =>
      rw [prepend_of_names? segment hNames]
      exact iff_of_true ⟨_, rfl⟩ ⟨names, rfl⟩

------------------------------------------------------------
-- Steps at Both Ends
------------------------------------------------------------

/- One name more, at the end of a path or at its front. -/
inductive PathStep where
  | append (segment : String)
  | prepend (segment : String)
  deriving DecidableEq, Repr

namespace PathStep

/- Take a step. Only a step at the front may fail. -/
def apply (p : Expr) : PathStep → Except ErrorKind Expr
  | .append segment => .ok (p.append segment)
  | .prepend segment => p.prepend segment

/- The names that steps put at the end, in order. -/
def appended : List PathStep → List String
  | [] => []
  | .append segment :: rest => segment :: appended rest
  | .prepend _ :: rest => appended rest

/- The names that steps put in front, in order. -/
def prepended : List PathStep → List String
  | [] => []
  | .append _ :: rest => prepended rest
  | .prepend segment :: rest => segment :: prepended rest

/- The names along a path after a step. -/
def extended (names : List String) : PathStep → List String
  | .append segment => names ++ [segment]
  | .prepend segment => segment :: names

/- A step from a path succeeds and leads to a path. -/
theorem apply_of_names?
    {p : Expr}
    {names : List String}
    (hNames : p.names? = some names)
    (step : PathStep) :
    ∃ q, apply p step = .ok q ∧
      q.names? = some (extended names step) := by
  cases step with
  | append segment =>
      refine ⟨_, rfl, ?_⟩
      rw [Expr.append, Expr.names?, hNames]
      rfl
  | prepend segment =>
      have hStep : apply p (.prepend segment) =
          .ok (Expr.extend (.identifier segment) names) :=
        prepend_of_names? segment hNames
      refine ⟨_, hStep, ?_⟩
      rw [names?_eq_some_iff]
      rfl

/- Steps of both kinds pile up at their own ends. -/
theorem foldlM_apply
    {p : Expr}
    {names : List String}
    (hNames : p.names? = some names)
    (steps : List PathStep) :
    ∃ q, steps.foldlM apply p = .ok q ∧
      q.names? =
        some ((prepended steps).reverse ++ names
          ++ appended steps) := by
  induction steps generalizing p names with
  | nil => exact ⟨p, rfl, by simpa [prepended, appended]⟩
  | cons step rest ih =>
      rcases apply_of_names? hNames step with
        ⟨q, hStep, hNext⟩
      rcases ih hNext with ⟨last, hRest, hLast⟩
      refine ⟨last, ?_, ?_⟩
      · rw [List.foldlM_cons, hStep]
        exact hRest
      · rw [hLast]
        cases step with
        | append segment =>
            simp [extended, prepended, appended]
        | prepend segment =>
            simp [extended, prepended, appended]

end PathStep

/-
  Member paths are lists of names. Steps at both ends of a
  path always succeed and lead to the path along the names
  put in front, latest first, the names it had, and the names
  put at its end, in whatever order the steps are taken. No
  two lists of names have the same path. And a name can be
  put in front of an expression exactly if it is a path.
-/
theorem member_path_algebra :
    (∀ (names : List String) (steps : List PathStep),
      names ≠ [] →
      ∃ start result,
        Expr.ofSegments names = .ok start ∧
          steps.foldlM PathStep.apply start = .ok result ∧
          Expr.ofSegments
              ((PathStep.prepended steps).reverse ++ names
                ++ PathStep.appended steps) =
            .ok result) ∧
      (∀ names names' : List String,
        names ≠ [] → names' ≠ [] →
        Expr.ofSegments names = Expr.ofSegments names' →
        names = names') ∧
      ∀ (segment : String) (p : Expr),
        ((∃ q, p.prepend segment = .ok q) ↔ p.IsPath) ∧
          (¬ p.IsPath →
            p.prepend segment = .error .notAPath) := by
  refine ⟨?_, ?_, ?_⟩
  · intro names steps hSome
    cases names with
    | nil => exact absurd rfl hSome
    | cons head tail =>
        have hStart :
            Expr.ofSegments (head :: tail) =
              .ok (Expr.extend (.identifier head) tail) := rfl
        rcases PathStep.foldlM_apply
            (names?_eq_some_iff.mpr hStart) steps with
          ⟨result, hSteps, hNames⟩
        exact ⟨_, result, hStart, hSteps,
          names?_eq_some_iff.mp hNames⟩
  · intro names names' hSome hSome' hSame
    cases names with
    | nil => exact absurd rfl hSome
    | cons head tail =>
        have hNames := names?_eq_some_iff.mpr
          (rfl : Expr.ofSegments (head :: tail) = .ok _)
        have hNames' := names?_eq_some_iff.mpr hSame.symm
        exact Option.some.inj (hNames.symm.trans hNames')
  · intro segment p
    refine ⟨prepend_eq_ok_iff segment p, ?_⟩
    intro hNot
    apply prepend_of_names?_eq_none
    rw [isPath_iff] at hNot
    cases hNames : p.names? with
    | none => rfl
    | some names => exact absurd ⟨names, hNames⟩ hNot

/-
  Steps at both ends of `b`, taken in turns, two lists with
  different paths, and an expression that is no path.
-/
theorem member_path_algebra_alternating :
    (∃ result,
      [PathStep.append "c", .prepend "a", .append "d",
          .prepend "args"].foldlM PathStep.apply
          (.identifier "b") = .ok result ∧
        Expr.ofSegments ["args", "a", "b", "c", "d"] =
          .ok result) ∧
      Expr.ofSegments ["a", "b"] ≠ Expr.ofSegments ["a.b"] ∧
      (Expr.member .null "a").prepend "args" =
        .error .notAPath := by
  rcases member_path_algebra with ⟨hSteps, hApart, hFront⟩
  refine ⟨?_, ?_, ?_⟩
  · rcases hSteps ["b"]
        [.append "c", .prepend "a", .append "d",
          .prepend "args"] (by decide) with
      ⟨start, result, hStart, hSteps, hResult⟩
    cases hStart
    exact ⟨result, hSteps, hResult⟩
  · intro hSame
    have hNames := hApart ["a", "b"] ["a.b"] (by decide)
      (by decide) hSame
    exact absurd hNames (by decide)
  · apply (hFront "args" (.member .null "a")).2
    rw [isPath_iff]
    rintro ⟨names, hNames⟩
    cases hNames

end Jsx

end TemplateJsx
