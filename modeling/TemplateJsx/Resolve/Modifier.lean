import TemplateJsx.Resolve.Expression
import TemplateJsx.Text.Casing

/-
  This file resolves element modifiers. Only the modifier
  that the configuration names for events has a form as an
  attribute:

    {{on "mouse-enter" this.show}}
      becomes   onMouseEnter={this.show}

  Key definitions include:
    * `Resolve.handlerName`
    * `Resolve.eventHandler?`
    * `Resolve.modifier`
-/

------------------------------------------------------------
-- Events
------------------------------------------------------------

namespace TemplateJsx

namespace Resolve

/- The attribute for an event: `mouse-enter` is `onMouseEnter`. -/
def handlerName (event : String) : String :=
  "on" ++ Text.capitalize (Text.camelCase event)

/-
  The event and the handler of a modifier whose path was
  written as the event modifier, with the event's name as a
  literal that is not empty.
-/
def eventHandler?
    (config : Config) :
    Template.Invocation → Option (String × Template.Expr)
  | ⟨.path p, [.string event _, handler], _⟩ =>
      if p.spelling = config.eventModifier ∧ event ≠ "" then
        some (event, handler)
      else
        none
  | _ => none

/- Resolve a modifier to an attribute. -/
def modifier
    (config : Config)
    (depth : Nat)
    (m : Template.Modifier) : Outcome Jsx.Attribute :=
  match eventHandler? config m.invocation with
  | none =>
      failShowing .unsupportedModifier
        (.statement (.modifier m))
  | some (event, handler) => do
      let value ← expression config depth handler
      return .container (handlerName event) value

end Resolve

end TemplateJsx
