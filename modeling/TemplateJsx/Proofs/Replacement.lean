import Mathlib.Data.Finset.Basic
import TemplateJsx.Proofs.Comparison

/-
  Rules that always fail in the place of some of the standard
  ones. Resolution with such rules and resolution with none
  of them replaced take the same steps, up to the first node
  that is given to a failing rule. There the message of that
  rule becomes the outcome, and nothing on the way out of the
  tree changes it.

  Key definitions include:
    * `Resolve.Rule`
    * `Resolve.Rules.failingAt`
    * `Resolve.Interrupts`

  Main declarations:
    * `Resolve.Interrupts.sequential`
    * `Resolve.failing_related`
    * `Resolve.failingAt_related`
    * `Resolve.resolve_failingAt`
-/

------------------------------------------------------------
-- Failing Rules
------------------------------------------------------------

namespace TemplateJsx

namespace Resolve

/- The rules that may be replaced. -/
inductive Rule where
  | element
  | fragment
  | block
  | comment
  deriving DecidableEq, Repr

/- The rules among which one is looked up. -/
def Rules.choice
    (replaced : Finset Rule)
    (text : String)
    (rule : Rule) : Rules :=
  if rule ∈ replaced then
    .failing text
  else
    .standard

/- The standard rules, some of them replaced by failing ones. -/
def Rules.failingAt
    (replaced : Finset Rule)
    (text : String) : Rules where
  element := (choice replaced text .element).element
  fragment := (choice replaced text .fragment).fragment
  block := (choice replaced text .block).block
  comment := (choice replaced text .comment).comment

------------------------------------------------------------
-- Interrupted Outcomes
------------------------------------------------------------

/-
  The first outcome is the second, or the bare message of a
  failing rule.
-/
def Interrupts
    (text : String)
    (α : Type)
    (cut whole : Outcome α) : Prop :=
  cut = .error (.rule text) ∨ cut = whole

/-
  The message passes every later step, and a step that was
  not interrupted has the same result in both.
-/
theorem Interrupts.sequential
    (text : String) :
    Sequential (Interrupts text) where
  refl := fun _ => .inr rfl
  bind := by
    rintro α β x y f g (rfl | rfl) hNext
    · exact .inl rfl
    · cases x with
      | error e => exact .inr rfl
      | ok a => exact hNext a

section Rules

variable (config : Config)
variable (replaced : Finset Rule)
variable (text : String)

/- A failing rule cuts whatever is found below its node. -/
theorem failing_related :
    Setup.Related (Interrupts text) ⟨config, .failing text⟩
      (.standard config) where
  toSequential := Interrupts.sequential text
  enter := fun _ _ => .inr rfl
  mustache := fun _ _ => .inr rfl
  element := fun _ _ _ _ _ _ _ _ => .inl rfl
  fragment := fun _ => .inl rfl
  block := fun _ _ _ _ _ _ _ _ => .inl rfl
  comment := fun _ => .inl rfl

/- Standard rules pass on what was interrupted further in. -/
theorem standard_related :
    Setup.Related (Interrupts text) (.standard config)
      (.standard config) := by
  have hComparable :
      Comparable (Interrupts text) config config.maxDepth
        config.maxDepth :=
    { toSequential := Interrupts.sequential text
      enter := fun _ _ => .inr rfl }
  exact hComparable.standard

theorem choice_related
    (rule : Rule) :
    Setup.Related (Interrupts text)
      ⟨config, .choice replaced text rule⟩
      (.standard config) := by
  unfold Rules.choice
  split
  · exact failing_related config text
  · exact standard_related config text

theorem failingAt_related :
    Setup.Related (Interrupts text)
      ⟨config, .failingAt replaced text⟩
      (.standard config) where
  toSequential := Interrupts.sequential text
  enter := fun _ _ => .inr rfl
  mustache := fun _ _ => .inr rfl
  element :=
    (choice_related config replaced text .element).element
  fragment :=
    (choice_related config replaced text .fragment).fragment
  block := (choice_related config replaced text .block).block
  comment :=
    (choice_related config replaced text .comment).comment

end Rules

/-
  A failing rule can only cut. Whichever rules are replaced,
  the outcome is their bare message, or it is the tree or the
  failure that the standard rules give.
-/
theorem resolve_failingAt
    (config : Config)
    (replaced : Finset Rule)
    (text : String)
    (template : Option Template) :
    let cut : Setup := ⟨config, .failingAt replaced text⟩
    cut.resolve template = .error (.rule text) ∨
      cut.resolve template =
        (Setup.standard config).resolve template :=
  resolve_related (failingAt_related config replaced text) template

/- A comment in an element is reached and cuts. -/
example :
    (⟨.default, .failingAt {.comment} "boom"⟩ : Setup).resolve
      (some
        ⟨[.element
            ⟨"p", false, [], [], [], [],
              [.comment ⟨"x", none⟩], none⟩], [], none⟩) =
      .error (.rule "boom") :=
  rfl

end Resolve

end TemplateJsx
