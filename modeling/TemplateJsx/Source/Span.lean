/-
  This file defines the places of a template's source that
  tree nodes and diagnostics refer to.

  Key definitions include:
    * `Location`
    * `Location.print`
    * `Span`
    * `Span.print`
-/

------------------------------------------------------------
-- Locations
------------------------------------------------------------

namespace TemplateJsx

/-
  A position in a template's source. Lines are counted from
  one and columns from zero. The file may be unknown, and is
  empty then.
-/
structure Location where
  file : String
  line : Int
  column : Int
  deriving DecidableEq, Repr

namespace Location

/- `file@line:column`, or `line:column` without a file. -/
def print (l : Location) : String :=
  let position := l.line.repr ++ ":" ++ l.column.repr
  if l.file = "" then
    position
  else
    l.file ++ "@" ++ position

end Location

------------------------------------------------------------
-- Spans
------------------------------------------------------------

/- A stretch of a template's source, open at either side. -/
structure Span where
  start : Option Location
  stop : Option Location
  deriving DecidableEq, Repr

namespace Span

/- Where a span starts, or `unknown`. -/
def print (span : Option Span) : String :=
  match span.bind Span.start with
  | none => "unknown"
  | some start => start.print

end Span

end TemplateJsx
