import TemplateJsx.Text.Join

/-
  This file defines the paths by which files are named, as
  texts and as addresses. Two paths that differ only in
  empty, `.` and `..` components name the same address, as
  there are no links.

  Key definitions include:
    * `Project.cleanPath`
    * `Project.joinPath`
    * `Project.Address`
    * `Project.Address.ofPath`
    * `Project.Address.print`
-/

------------------------------------------------------------
-- Addresses
------------------------------------------------------------

namespace TemplateJsx

namespace Project

/- Where an address starts. -/
inductive Base where
  /- A number of levels above the working directory. -/
  | above (levels : Nat)
  /- The root of all files. -/
  | root
  deriving DecidableEq, Repr

/- The names on the way from a base down to a file. -/
structure Address where
  base : Base
  names : List String
  deriving DecidableEq, Repr

namespace Address

/- The working directory. -/
def here : Address :=
  ⟨.above 0, []⟩

/- The directory that an address lies in. -/
def parent (a : Address) : Address :=
  match a.names, a.base with
  | [], .above levels => ⟨.above (levels + 1), []⟩
  | [], .root => a
  | _, _ => ⟨a.base, a.names.dropLast⟩

/- An address one name further down. -/
def child (a : Address) (name : String) : Address :=
  ⟨a.base, a.names ++ [name]⟩

/- The address that a component of a path leads to. -/
def step (a : Address) (component : String) : Address :=
  if component = "" ∨ component = "." then
    a
  else if component = ".." then
    a.parent
  else
    a.child component

end Address

------------------------------------------------------------
-- Paths
------------------------------------------------------------

/- The components of a path, empty ones included. -/
def components (path : String) : List String :=
  Text.splitAt '/' path

/- The address at which the components of a path start. -/
def startOf (path : String) : Address :=
  if path.toList.head? = some '/' then
    ⟨.root, []⟩
  else
    .here

namespace Address

/- The address that a path names. -/
def ofPath (path : String) : Address :=
  (components path).foldl step (startOf path)

/- The shortest path to an address. -/
def print (a : Address) : String :=
  match a.base with
  | .root => "/" ++ Text.joinWith "/" a.names
  | .above levels =>
      match List.replicate levels ".." ++ a.names with
      | [] => "."
      | names => Text.joinWith "/" names

end Address

/- The shortest path to what a path names. -/
def cleanPath (path : String) : String :=
  (Address.ofPath path).print

/-
  The shortest path that follows one path after the other.
  Two empty paths stay empty.
-/
def joinPath
    (first : String)
    (second : String) : String :=
  if first = "" ∧ second = "" then
    ""
  else if first = "" then
    cleanPath second
  else
    cleanPath (first ++ "/" ++ second)

/- The last component of a path. -/
def fileName (path : String) : String :=
  ((components path).getLast?).getD ""

end Project

end TemplateJsx
