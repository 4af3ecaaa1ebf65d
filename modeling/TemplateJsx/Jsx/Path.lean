import TemplateJsx.Diagnostic.Kind
import TemplateJsx.Jsx.Basic

/-
  This file defines member paths: an identifier followed by
  property accesses, as in `a.b.c`.

  Key definitions include:
    * `Jsx.Expr.append`
    * `Jsx.Expr.extend`
    * `Jsx.Expr.ofSegments`
    * `Jsx.Expr.prepend`
-/

------------------------------------------------------------
-- Member Paths
------------------------------------------------------------

namespace TemplateJsx

namespace Jsx

namespace Expr

/- The property of that name of an expression. -/
def append
    (path : Expr)
    (segment : String) : Expr :=
  .member path segment

/- The properties along a list of names, from the left. -/
def extend
    (path : Expr)
    (segments : List String) : Expr :=
  segments.foldl append path

/- The path along a list of names. The empty list has none. -/
def ofSegments : List String → Except ErrorKind Expr
  | [] => .error .emptyPathSegments
  | head :: tail => .ok (extend (.identifier head) tail)

/-
  The path with one more name in front. Only a path has a
  front: any other expression is refused.
-/
def prepend
    (segment : String) : Expr → Except ErrorKind Expr
  | .identifier name =>
      .ok (.member (.identifier segment) name)
  | .member base property =>
      (prepend segment base).map (.member · property)
  | _ => .error .notAPath

end Expr

end Jsx

end TemplateJsx
