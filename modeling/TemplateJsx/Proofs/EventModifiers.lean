import TemplateJsx.Proofs.Blame
import TemplateJsx.Resolve.Modifier

/-
  How event modifiers are recognized. A path carries its name
  twice, as it was written and as a head and a tail. Blocks
  and expressions go by the head and the tail; a modifier is
  compared with the event modifier as it was written, so that
  two modifiers with the same names may fare differently.

  An expression fails in three ways, none of which is that of
  a modifier. A modifier that is recognized is therefore never
  taken for one that is not.

  Key definitions include:
    * `Resolve.SameVerdict`
    * `Resolve.event?`

  Main declarations:
    * `Resolve.handlerAttribute_fails`
    * `Resolve.eventHandler?_eq`
    * `Resolve.modifiers_agree_iff`
-/

------------------------------------------------------------
-- Outcomes that Agree
------------------------------------------------------------

namespace TemplateJsx

namespace Resolve

/-
  Two outcomes are the same tree, or both are failures of the
  same kind.
-/
inductive SameVerdict
    {α : Type} : Outcome α → Outcome α → Prop
  | tree (a : α) : SameVerdict (.ok a) (.ok a)
  | failure
      {f f' : Failure}
      (hKind : f.kind = f'.kind) :
      SameVerdict (.error (.failure f)) (.error (.failure f'))

namespace SameVerdict

variable {α : Type}

theorem symm
    {x y : Outcome α}
    (h : SameVerdict x y) :
    SameVerdict y x := by
  cases h with
  | tree a => exact .tree a
  | failure hKind => exact .failure hKind.symm

/- What fails only by failures agrees with itself. -/
theorem refl_of_fails
    {told : Failure → Prop}
    {x : Outcome α}
    (hFails : Fails told x) :
    SameVerdict x x := by
  cases x with
  | ok a => exact .tree a
  | error e =>
      rcases hFails e rfl with ⟨f, rfl, _⟩
      exact .failure rfl

end SameVerdict

/- What never fails in a way differs from what does. -/
theorem Fails.not_sameVerdict
    {α : Type}
    {kinds : List ErrorKind}
    {x : Outcome α}
    {f : Failure}
    (hKinds : Fails (·.kind ∈ kinds) x)
    (hOther : f.kind ∉ kinds) :
    ¬ SameVerdict x (.error (.failure f)) := by
  intro hSame
  cases hSame with
  | failure hKind =>
      rcases hKinds _ rfl with ⟨f', hFailure, hMember⟩
      cases hFailure
      rw [hKind] at hMember
      exact hOther hMember

------------------------------------------------------------
-- Recognized Modifiers
------------------------------------------------------------

/-
  The event and the handler that two arguments name. The
  event is a literal that is not empty.
-/
def event? :
    List Template.Expr → Option (String × Template.Expr)
  | [.string event _, handler] =>
      if event = "" then none else some (event, handler)
  | _ => none

/- The attribute for a handler of an event. -/
def handlerAttribute
    (config : Config)
    (depth : Nat)
    (found : String × Template.Expr) : Outcome Jsx.Attribute := do
  let value ← expression config depth found.2
  return .container (handlerName found.1) value

/- It fails as the handler does. -/
theorem handlerAttribute_fails
    (config : Config)
    (depth : Nat)
    (found : String × Template.Expr) :
    Fails (·.kind ∈ expressionKinds)
      (handlerAttribute config depth found) := by
  have hHandler := expression_blames config depth found.2
  exact (hHandler.mono fun _ hPoints => hPoints.kind).map _

/-
  The arguments of a modifier are looked at only if its path
  is written as the event modifier.
-/
theorem eventHandler?_eq
    (config : Config)
    (p : Template.Path)
    (params : List Template.Expr)
    (hash : Template.Hash) :
    eventHandler? config ⟨.path p, params, hash⟩ =
      if p.spelling = config.eventModifier then
        event? params
      else
        none := by
  unfold eventHandler?
  fun_cases event? params with
  | case1 span handler => simp
  | case2 event span handler hEvent => simp [hEvent]
  | case3 params hOther =>
      rw [ite_self]
      split
      · rename_i hInvocation
        cases hInvocation
        exact absurd rfl (hOther _ _ _)
      · rfl

/-
  A modifier written as the event modifier, with arguments
  that name an event, becomes the attribute for the handler.
-/
theorem modifier_of_event
    {config : Config}
    {p : Template.Path}
    {params : List Template.Expr}
    {found : String × Template.Expr}
    (depth : Nat)
    (hash : Template.Hash)
    (span : Option Span)
    (hSpelling : p.spelling = config.eventModifier)
    (hEvent : event? params = some found) :
    modifier config depth ⟨⟨.path p, params, hash⟩, span⟩ =
      handlerAttribute config depth found := by
  unfold modifier
  rw [eventHandler?_eq, if_pos hSpelling, hEvent]
  rfl

/- Any other modifier is refused as unsupported. -/
theorem modifier_of_other
    {config : Config}
    {p : Template.Path}
    {params : List Template.Expr}
    (depth : Nat)
    (hash : Template.Hash)
    (span : Option Span)
    (hOther :
      p.spelling = config.eventModifier → event? params = none) :
    ∃ f, f.kind = .unsupportedModifier ∧
      modifier config depth ⟨⟨.path p, params, hash⟩, span⟩ =
        .error (.failure f) := by
  have hNone :
      eventHandler? config ⟨.path p, params, hash⟩ = none := by
    rw [eventHandler?_eq]
    exact ite_eq_right_iff.mpr hOther
  unfold modifier
  rw [hNone]
  exact ⟨_, rfl, rfl⟩

/-
  When two modifiers with the same arguments fare alike. What
  counts is how their paths were written: both or neither as
  the event modifier, unless the arguments name no event and
  both are refused. The heads and the tails of the paths do
  not come into it, whether they agree or not.
-/
theorem modifiers_agree_iff
    (config : Config)
    (depth : Nat)
    (p p' : Template.Path)
    (params : List Template.Expr)
    (hash : Template.Hash)
    (span span' : Option Span) :
    SameVerdict
        (modifier config depth ⟨⟨.path p, params, hash⟩, span⟩)
        (modifier config depth
          ⟨⟨.path p', params, hash⟩, span'⟩) ↔
      (p.spelling = config.eventModifier ↔
          p'.spelling = config.eventModifier) ∨
        event? params = none := by
  -- Refused modifiers are told from others by their failure.
  have hUnknown : .unsupportedModifier ∉ expressionKinds := by
    decide
  cases hEvent : event? params with
  | none =>
      rcases modifier_of_other depth hash span
          (fun _ : p.spelling = _ => hEvent) with
        ⟨f, hKind, hModifier⟩
      rcases modifier_of_other depth hash span'
          (fun _ : p'.spelling = _ => hEvent) with
        ⟨f', hKind', hModifier'⟩
      rw [hModifier, hModifier']
      exact iff_of_true (.failure (hKind.trans hKind'.symm))
        (Or.inr rfl)
  | some found =>
      have hFails := handlerAttribute_fails config depth found
      rw [or_iff_left (by simp)]
      by_cases hSpelling : p.spelling = config.eventModifier
      · rw [modifier_of_event depth hash span hSpelling hEvent]
        by_cases hSpelling' : p'.spelling = config.eventModifier
        · rw [modifier_of_event depth hash span' hSpelling'
            hEvent]
          exact iff_of_true (.refl_of_fails hFails)
            (iff_of_true hSpelling hSpelling')
        · rcases modifier_of_other depth hash span'
              (fun h => absurd h hSpelling') with
            ⟨f', hKind', hModifier'⟩
          rw [hModifier']
          rw [← hKind'] at hUnknown
          exact iff_of_false (hFails.not_sameVerdict hUnknown)
            fun hBoth => hSpelling' (hBoth.mp hSpelling)
      · rcases modifier_of_other depth hash span
            (fun h => absurd h hSpelling) with
          ⟨f, hKind, hModifier⟩
        rw [hModifier]
        by_cases hSpelling' : p'.spelling = config.eventModifier
        · rw [modifier_of_event depth hash span' hSpelling'
            hEvent]
          rw [← hKind] at hUnknown
          exact iff_of_false
            (fun h => hFails.not_sameVerdict hUnknown h.symm)
            fun hBoth => hSpelling (hBoth.mpr hSpelling')
        · rcases modifier_of_other depth hash span'
              (fun h => absurd h hSpelling') with
            ⟨f', hKind', hModifier'⟩
          rw [hModifier']
          exact iff_of_true (.failure (hKind.trans hKind'.symm))
            (iff_of_false hSpelling hSpelling')

/-
  The path `on` as it is read from a head and a tail, where
  the way it was written is not told.
-/
def unwrittenOn : Template.Path :=
  ⟨"", "on", [], none⟩

/-
  Two modifiers with the same names and arguments, of which
  one becomes an attribute and the other is refused.
-/
theorem modifier_lost_without_spelling :
    let written : Template.Path := ⟨"on", "on", [], none⟩
    let save : Template.Expr :=
      .path ⟨"save", "save", [], none⟩
    let params : List Template.Expr :=
      [.string "click" none, save]
    written.head = unwrittenOn.head ∧
      written.tail = unwrittenOn.tail ∧
      modifier .default 1 ⟨⟨.path written, params, .empty⟩, none⟩ =
        .ok (.container "onClick" (.identifier "save")) ∧
      ¬ SameVerdict
        (modifier .default 1
          ⟨⟨.path written, params, .empty⟩, none⟩)
        (modifier .default 1
          ⟨⟨.path unwrittenOn, params, .empty⟩, none⟩) := by
  refine ⟨rfl, rfl, rfl, ?_⟩
  intro hSame
  cases hSame

end Resolve

end TemplateJsx
