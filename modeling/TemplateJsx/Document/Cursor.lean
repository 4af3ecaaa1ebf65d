import TemplateJsx.Document.Mark

/-
  This file defines how the text of a document is read. The
  text comes into view in portions, and only as far as it is
  needed: what lies behind the end of a document is never
  looked at, be it allowed or not.

  Key definitions include:
    * `Document.portions`
    * `Document.Cursor`
    * `Document.Cursor.start`
    * `Document.Scan`
    * `Document.Scan.need`
    * `Document.Scan.skip`
    * `Document.Scan.takeBreak`
    * `Document.Scan.loop`
    * `Document.Scan.skipComments`
    * `Document.Scan.skipLineComment`
-/

------------------------------------------------------------
-- Portions of a Text
------------------------------------------------------------

namespace TemplateJsx

namespace Document

/- How many bytes of a text come into view at a time. -/
def portionSize : Nat := 512

/-
  The portions of a text, none of which divides a character.
  The portion at hand stands in reverse and has room for some
  more bytes.
-/
def portions :
    (room : Nat) → (current : List Char) → List Char →
      List (List Char)
  | _, current, [] => [current.reverse]
  | room, current, c :: rest =>
      if c.utf8Size ≤ room then
        portions (room - c.utf8Size) (c :: current) rest
      else
        current.reverse
          :: portions (portionSize - c.utf8Size) [c] rest

/- Whether a list has so many elements. -/
def hasAtLeast
    {α : Type} : Nat → List α → Bool
  | 0, _ => true
  | _ + 1, [] => false
  | n + 1, _ :: rest => hasAtLeast n rest

------------------------------------------------------------
-- Cursors
------------------------------------------------------------

/- The mark that may open a text. -/
def byteOrderMark : Char := '\ufeff'

/- A place in a text that is being read. -/
structure Cursor where
  /- The characters in view. -/
  rest : List Char
  /- The portions that are not in view yet. -/
  later : List (List Char)
  /- Whether the portion after them has a bad character. -/
  broken : Bool
  /- How far the view goes beyond the end of the text. -/
  beyond : Nat
  /- Whether the view was opened at a byte order mark. -/
  viewAtMark : Bool
  mark : Mark
  /- Whether only blanks were passed since a line break. -/
  onNewLine : Bool
  /- More steps than any loop over the text can take. -/
  limit : Nat
  deriving Repr

namespace Cursor

/-
  The start of a text. A byte order mark there is no part of
  the text, but it takes up room in the first portion.
-/
def start (text : String) : Cursor :=
  let (room, cs) :=
    match text.toList with
    | [] => (portionSize, [])
    | c :: rest =>
        if c = byteOrderMark then
          (portionSize - c.utf8Size, rest)
        else
          (portionSize, c :: rest)
  let all := portions room [] cs
  let allowed := all.takeWhile (fun portion => portion.all isAllowed)
  { rest := []
    later := allowed
    broken := allowed.length < all.length
    beyond := 0
    viewAtMark := false
    mark := .start
    onNewLine := false
    limit := cs.length + 8 }

/- Bring portions into view until there is enough. -/
def extend
    (n : Nat) :
    List Char → List (List Char) →
      List Char × List (List Char)
  | rest, [] => (rest, [])
  | rest, portion :: later =>
      let rest := rest ++ portion
      if hasAtLeast n rest then
        (rest, later)
      else
        extend n rest later

/-
  Have a number of characters in view, as far as the text has
  so many. To get more into view opens the view anew, at the
  present place.
-/
def need
    (n : Nat)
    (c : Cursor) : Except SyntaxError Cursor :=
  if hasAtLeast (n - c.beyond) c.rest then
    .ok c
  else
    let (rest, later) := extend n c.rest c.later
    let enough := hasAtLeast n rest
    if c.broken && !enough then
      .error ⟨0, "control characters are not allowed"⟩
    else
      .ok
        { c with
          rest := rest
          later := later
          beyond := if enough then 0 else c.beyond + 1
          viewAtMark := rest.head? == some byteOrderMark }

/- Pass over a character other than a line break. -/
def skip (c : Cursor) : Cursor :=
  match c.rest with
  | [] => { c with mark := c.mark.next, beyond := c.beyond - 1 }
  | x :: rest =>
      { c with
        rest := rest
        mark := c.mark.next
        onNewLine := c.onNewLine && isBlank x }

/-
  Pass over a line break, and give the break that it stands
  for: itself if it separates lines or paragraphs, and else a
  line feed.
-/
def takeBreak (c : Cursor) : List Char × Cursor :=
  let pass (rest : List Char) (width : Nat) : Cursor :=
    { c with
      rest := rest
      mark := c.mark.nextLine width
      onNewLine := true }
  match c.rest with
  | '\r' :: '\n' :: rest => (['\n'], pass rest 2)
  | x :: rest =>
      if x = '\u2028' ∨ x = '\u2029' then
        ([x], pass rest 1)
      else if isBreak x then
        (['\n'], pass rest 1)
      else
        ([], c)
  | [] => ([], c)

end Cursor

------------------------------------------------------------
-- Scanning
------------------------------------------------------------

/- A step that reads on in a text. -/
abbrev Scan (α : Type) :=
  StateT Cursor (Except SyntaxError) α

namespace Scan

/- Have a number of characters in view. -/
def need (n : Nat) : Scan Unit := do
  set (← (← get).need n)

/- The position. -/
def mark : Scan Mark := do
  return (← get).mark

/- The next character, if the text has not ended. -/
def next? : Scan (Option Char) := do
  return (← get).rest.head?

/- Pass over a character other than a line break. -/
def skip : Scan Unit :=
  modify Cursor.skip

/- Pass over characters other than line breaks. -/
def skipSome : Nat → Scan Unit
  | 0 => return ()
  | n + 1 => do
      skip
      skipSome n

/- Pass over a line break, and give what it stands for. -/
def takeBreak : Scan (List Char) :=
  modifyGet Cursor.takeBreak

/- Fail here, in a construct that started at `context`. -/
def fail
    {α : Type}
    (context : Mark)
    (problem : String) : Scan α := do
  throw (.inText context (← get).mark problem)

/- Repeat a step until it gives a result. -/
def iterate
    {σ α : Type}
    (step : σ → Scan (σ ⊕ α)) :
    (limit : Nat) → σ → Scan α
  | 0, _ => throw ⟨0, "unexpected end of text"⟩
  | limit + 1, state => do
      match ← step state with
      | .inl state => iterate step limit state
      | .inr result => return result

/-
  Repeat a step until it gives a result. Every step but the
  last is to pass over a character.
-/
def loop
    {σ α : Type}
    (step : σ → Scan (σ ⊕ α))
    (state : σ) : Scan α := do
  iterate step (← get).limit state

/-
  Pass over the characters of a class, of which one has to be
  in view, and give them in reverse before those given.
-/
def takeWhile
    (p : Char → Bool)
    (read : List Char) : Scan (List Char) :=
  loop
    (fun read => do
      match ← next? with
      | some c =>
          if p c then
            skip
            need 1
            return .inl (c :: read)
          else
            return .inr read
      | none => return .inr read)
    read

------------------------------------------------------------
-- Comments
------------------------------------------------------------

/- How far to look for a further comment. -/
def commentReach : Nat := 512

/- Pass over what is left of a line. -/
def skipToBreak : Scan Unit := do
  need 1
  let _ ← takeWhile (fun c => !isBreak c) []

/- Pass over blanks and line breaks up to a position. -/
def skipTo (index : Nat) : Scan Unit :=
  loop
    (fun _ => do
      need 1
      let c ← get
      if index ≤ c.mark.index then
        return .inr ()
      else
        match c.rest.head? with
        | some x =>
            if isBreak x then
              need 2
              let _ ← takeBreak
              return .inl ()
            else
              skip
              return .inl ()
        | none => return .inr ())
    ()

/-
  How many blanks and line breaks stand between a distance
  and the next comment, if they are all that does.
-/
def commentAhead?
    (passes : Char → Bool)
    (distance : Nat) : Scan (Option Nat) :=
  loop
    (fun distance => do
      if commentReach ≤ distance then
        return .inr none
      else
        need (distance + 1)
        match ((← get).rest.drop distance).head? with
        | none => return .inr none
        | some c =>
            if c = '#' then
              return .inr (some distance)
            else if passes c then
              return .inl (distance + 1)
            else
              return .inr none)
    distance

/- Pass over a comment that starts some blanks ahead. -/
def skipCommentAt (distance : Nat) : Scan Unit := do
  skipTo ((← mark).index + distance)
  skipToBreak

/-
  Pass over a comment and the comments on the lines after it.
  What stands before a further comment may be blanks of any
  kind.
-/
def skipComments : Scan Unit := do
  skipToBreak
  loop
    (fun _ => do
      need 2
      let passes (c : Char) : Bool :=
        isBlank c || c == '\n' || c == '\r'
      if (← next?).any passes then
        match ← commentAhead? passes 1 with
        | some distance =>
            skipCommentAt distance
            return .inl ()
        | none => return .inr ()
      else
        return .inr ())
    ()

/- Pass over a comment on the same line, if there is one. -/
def skipLineComment : Scan Unit := do
  if (← get).onNewLine then
    return ()
  else
    match ← commentAhead? isBlank 0 with
    | some distance => skipCommentAt distance
    | none => return ()

end Scan

end Document

end TemplateJsx
