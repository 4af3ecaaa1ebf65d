import TemplateJsx.Text.Casing

/-
  This file defines which files hold templates and how the
  components compiled from them are called.

  Key definitions include:
    * `Component.suffixes`
    * `Component.baseName?`
    * `Component.name`
-/

------------------------------------------------------------
-- Template Files
------------------------------------------------------------

namespace TemplateJsx

namespace Component

/- The ends of the names of template files. -/
def suffixes : List String :=
  [".hbs.yaml", ".hbs.yml", ".hbs.json"]

/- What stands before an end of a list, if it is its end. -/
def before?
    (ending : List Char)
    (cs : List Char) : Option (List Char) :=
  if ending.isSuffixOf cs then
    some (cs.take (cs.length - ending.length))
  else
    none

/- The name of a template file without its suffix. -/
def baseName? (file : String) : Option String :=
  (suffixes.findSome?
    (fun suffix => before? suffix.toList file.toList)).map
      String.ofList

------------------------------------------------------------
-- Component Names
------------------------------------------------------------

/- The characters that divide words, as dashes. -/
def dashed (c : Char) : Char :=
  if c = '_' ∨ c = '.' ∨ c = ' ' then '-' else c

/-
  The name of the component of a file: the words of the base
  name, each with a capital. A name that would start with a
  digit starts with a `T`, and no name is empty.
-/
def name (base : String) : String :=
  let words := String.ofList (base.toList.map dashed)
  let camel := Text.camelCase (Text.lowerText words)
  match camel.toList with
  | [] => "Template"
  | c :: _ =>
      if c.isDigit then
        Text.capitalize ("T" ++ camel)
      else
        Text.capitalize camel

end Component

end TemplateJsx
