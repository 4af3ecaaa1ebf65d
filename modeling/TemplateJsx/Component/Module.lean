import TemplateJsx.Jsx.Print

/-
  This file defines the text of the module that holds a
  compiled component.

  Key definitions include:
    * `Component.compilerName`
    * `Component.moduleText`
-/

------------------------------------------------------------
-- Modules
------------------------------------------------------------

namespace TemplateJsx

namespace Component

/- The name of the compiler. -/
def compilerName : String := "hbs-jsx"

/-
  The module of a component: a function of the template's
  arguments, under a heading that names the component and the
  file of its template.
-/
def moduleText
    (name : String)
    (source : String)
    (body : Jsx.Expr) : String :=
  "// Compiled by " ++ compilerName ++ "\n"
    ++ "// Component: " ++ name ++ "\n"
    ++ "// Template: " ++ source ++ "\n\n"
    ++ "export default function " ++ name ++ "(args) \x7b\n"
    ++ "  return " ++ body.print ++ ";\n"
    ++ "\x7d\n"

end Component

end TemplateJsx
