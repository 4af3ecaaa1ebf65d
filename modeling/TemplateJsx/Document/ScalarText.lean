import TemplateJsx.Document.Cursor
import TemplateJsx.Number.Reader

/-
  This file reads the text of scalars: plain, in single or
  double quotes, and in blocks of lines. A scalar other than
  a block may go on in the next line; a single line break
  within it then counts as a space.

  Key definitions include:
    * `Document.ScalarStyle`
    * `Document.Folding`
    * `Document.readQuoted`
    * `Document.readPlain`
    * `Document.readBlock`
-/

------------------------------------------------------------
-- Blanks within Scalars
------------------------------------------------------------

namespace TemplateJsx

namespace Document

/-
  Whether a scalar stands for itself, was quoted, or has the
  name of its type before it.
-/
inductive ScalarStyle where
  | plain
  | quoted
  | tagged (tag : String)
  deriving DecidableEq, Repr

/-
  The blanks and breaks since the last character of a
  scalar, latest first. Blanks count only on the line of
  that character.
-/
structure Folding where
  blanks : List Char
  firstBreak : Option Char
  moreBreaks : List Char
  onNewLine : Bool
  deriving Repr

namespace Folding

/- Nothing since the last character. -/
def none : Folding :=
  ⟨[], Option.none, [], false⟩

/- After an escaped line break, which leaves nothing. -/
def escapedBreak : Folding :=
  ⟨[], Option.none, [], true⟩

/- One more blank. -/
def addBlank
    (f : Folding)
    (c : Char) : Folding :=
  if f.onNewLine then f else { f with blanks := c :: f.blanks }

/- One more line break, by what it stands for. -/
def addBreaks
    (f : Folding)
    (lineBreak : List Char) : Folding :=
  if f.onNewLine then
    { f with moreBreaks := lineBreak ++ f.moreBreaks }
  else
    ⟨[], lineBreak.head?, [], true⟩

/-
  What the blanks and breaks stand for, latest first. A line
  feed alone is a space, and is dropped before other breaks.
-/
def text (f : Folding) : List Char :=
  if f.onNewLine then
    match f.firstBreak with
    | Option.none => f.moreBreaks
    | some c =>
        if c = '\n' then
          match f.moreBreaks with
          | [] => [' ']
          | breaks => breaks
        else
          f.moreBreaks ++ [c]
  else
    f.blanks

end Folding

/-
  Pass over blanks and line breaks. Where tabs may not stand
  in the indentation, `tabLimit` is the column they have to
  reach.
-/
def readFolding
    (start : Mark)
    (tabLimit : Option Int)
    (fold : Folding) : Scan Folding :=
  Scan.loop
    (fun fold => do
      let c ← get
      match c.rest.head? with
      | none => return .inr fold
      | some x =>
          if isBlank x then
            if x = '\t' ∧ fold.onNewLine = true
                ∧ tabLimit.any ((c.mark.column : Int) < ·) then
              Scan.fail start
                "found a tab character that violates indentation"
            else
              Scan.skip
              Scan.need 1
              return .inl (fold.addBlank x)
          else if isBreak x then
            Scan.need 2
            let lineBreak ← Scan.takeBreak
            Scan.need 1
            return .inl (fold.addBreaks lineBreak)
          else
            return .inr fold)
    fold

------------------------------------------------------------
-- Quoted Scalars
------------------------------------------------------------

/- The character that a letter after a backslash stands for. -/
def escaped? (c : Char) : Option Char :=
  match c with
  | '0' => some '\x00'
  | 'a' => some '\x07'
  | 'b' => some '\x08'
  | 't' => some '\t'
  | '\t' => some '\t'
  | 'n' => some '\n'
  | 'v' => some '\x0b'
  | 'f' => some '\x0c'
  | 'r' => some '\r'
  | 'e' => some '\x1b'
  | ' ' => some ' '
  | '"' => some '"'
  | '\'' => some '\''
  | '\\' => some '\\'
  | 'N' => some '\x85'
  | '_' => some '\xa0'
  | 'L' => some '\u2028'
  | 'P' => some '\u2029'
  | _ => none

/- How many digits follow an escape of a code point. -/
def codeDigits? (c : Char) : Option Nat :=
  match c with
  | 'x' => some 2
  | 'u' => some 4
  | 'U' => some 8
  | _ => none

/- The character of a code point, surrogates excluded. -/
def charOf? (code : Nat) : Option Char :=
  if h : code.isValidChar then
    some (Char.ofNatAux code h)
  else
    none

/- The value of hexadecimal digits, if there are so many. -/
def hexValue? : (digits : Nat) → (value : Nat) → List Char → Option Nat
  | 0, value, _ => some value
  | _ + 1, _, [] => none
  | digits + 1, value, c :: rest =>
      match Number.digitValue? 16 c with
      | none => none
      | some d => hexValue? digits (value * 16 + d) rest

/- Read an escape after its backslash and its letter. -/
def readCode
    (start : Mark)
    (digits : Nat) : Scan Char := do
  Scan.need digits
  match hexValue? digits 0 (← get).rest with
  | none =>
      Scan.fail start "did not find expected hexdecimal number"
  | some code =>
      match charOf? code with
      | none =>
          Scan.fail start
            "found invalid Unicode character escape code"
      | some c =>
          Scan.skipSome digits
          return c

/- How the characters between two blanks go on. -/
inductive WordEnd where
  | ends
  /- A line break with a backslash before it. -/
  | escapedBreak
  deriving DecidableEq, Repr

/-
  Read on in single quotes up to a blank or the last quote. A
  quote within them is written twice. What was read so far
  stands in reverse.
-/
def readSingleWord
    (read : List Char) : Scan (List Char) :=
  Scan.loop
    (fun read => do
      match (← get).rest with
      | [] => return .inr read
      | c :: rest =>
          if isBlank c || isBreak c then
            return .inr read
          else if c ≠ '\'' then
            Scan.skip
            Scan.need 2
            return .inl (c :: read)
          else if rest.head? = some '\'' then
            Scan.skipSome 2
            Scan.need 2
            return .inl (c :: read)
          else
            return .inr read)
    read

/- Read on in double quotes up to a blank or the last quote. -/
def readDoubleWord
    (start : Mark)
    (read : List Char) : Scan (List Char × WordEnd) :=
  Scan.loop
    (fun read => do
      match (← get).rest with
      | [] => return .inr (read, .ends)
      | c :: rest =>
          if isBlank c || isBreak c || c == '"' then
            return .inr (read, .ends)
          else if c ≠ '\\' then
            Scan.skip
            Scan.need 2
            return .inl (c :: read)
          else if rest.head?.any isBreak then
            Scan.need 3
            Scan.skip
            let _ ← Scan.takeBreak
            return .inr (read, .escapedBreak)
          else
            let letter := rest.head?
            match letter.bind escaped?, letter.bind codeDigits? with
            | some d, _ =>
                Scan.skipSome 2
                Scan.need 2
                return .inl (d :: read)
            | none, some digits =>
                Scan.skipSome 2
                let d ← readCode start digits
                Scan.need 2
                return .inl (d :: read)
            | none, none =>
                Scan.fail start "found unknown escape character")
    read

/- Read a scalar in single or double quotes. -/
def readQuoted (double : Bool) : Scan String := do
  let start ← Scan.mark
  Scan.skip
  let read ← Scan.loop
    (fun read => do
      Scan.need 4
      let c ← get
      if c.mark.column = 0 ∧ isDocumentMark c.rest then
        Scan.fail start "found unexpected document indicator"
      else if c.rest.isEmpty then
        Scan.fail start "found unexpected end of stream"
      else
        let (read, wordEnd) ←
          if double then
            readDoubleWord start read
          else do
            pure (← readSingleWord read, WordEnd.ends)
        Scan.need 1
        if (← Scan.next?) = some (if double then '"' else '\'') then
          return .inr read
        else
          let fold ←
            readFolding start none
              (if wordEnd = .escapedBreak then
                .escapedBreak
              else
                .none)
          return .inl (fold.text ++ read))
    []
  Scan.skip
  return String.ofList read.reverse

------------------------------------------------------------
-- Plain Scalars
------------------------------------------------------------

/- The marks that end a plain scalar in a flow collection. -/
def isFlowMark (c : Char) : Bool :=
  c == ',' || c == '?' || c == '[' || c == ']'
    || c == '\x7b' || c == '\x7d'

/- A plain scalar, and whether a new line follows it. -/
structure PlainText where
  text : String
  onNewLine : Bool
  deriving Repr

/-
  Read on in a plain scalar up to a blank. It ends at a colon
  before a blank, and at a mark of a flow collection inside
  one.
-/
def readPlainWord
    (flow : Bool)
    (read : List Char)
    (fold : Folding) : Scan (List Char × Folding) :=
  Scan.loop
    (fun (read, fold) => do
      match (← get).rest with
      | [] => return .inr (read, fold)
      | c :: rest =>
          if isBlank c || isBreak c
              || (c == ':' && endsWord rest)
              || (flow && isFlowMark c) then
            return .inr (read, fold)
          else
            Scan.skip
            Scan.need 2
            return .inl (c :: (fold.text ++ read), .none))
    (read, fold)

/-
  Read a plain scalar. It also ends before a comment, before a
  mark between documents, and at a line that is indented too
  little.
-/
def readPlain
    (flow : Bool)
    (indent : Int) : Scan PlainText := do
  let start ← Scan.mark
  let (read, fold) ← Scan.loop
    (fun (read, fold) => do
      Scan.need 4
      let c ← get
      if (c.mark.column = 0 ∧ isDocumentMark c.rest)
          ∨ c.rest.head? = some '#' then
        return .inr (read, fold)
      else
        let (read, fold) ← readPlainWord flow read fold
        if (← Scan.next?).any (fun c => isBlank c || isBreak c) then
          Scan.need 1
          let fold ← readFolding start (some indent) fold
          if flow = false ∧ ((← Scan.mark).column : Int) < indent then
            return .inr (read, fold)
          else
            return .inl (read, fold)
        else
          return .inr (read, fold))
    (([] : List Char), Folding.none)
  return ⟨String.ofList read.reverse, fold.onNewLine⟩

------------------------------------------------------------
-- Blocks of Lines
------------------------------------------------------------

/- What becomes of the line breaks at the end of a block. -/
inductive Chomping where
  | strip
  | clip
  | keep
  deriving DecidableEq, Repr

/- The sign for chomping, if a character is one. -/
def chomping? (c : Char) : Option Chomping :=
  if c = '+' then some .keep
  else if c = '-' then some .strip
  else none

/- Read the sign for chomping, if there is one. -/
def readChomping? : Scan (Option Chomping) := do
  Scan.need 1
  match (← Scan.next?).bind chomping? with
  | some chomping =>
      Scan.skip
      return some chomping
  | none => return none

/- Read a digit for the indentation, zero if there is none. -/
def readIncrement (start : Mark) : Scan Nat := do
  Scan.need 1
  match ← Scan.next? with
  | none => return 0
  | some c =>
      if c = '0' then
        Scan.fail start "found an indentation indicator equal to 0"
      else if c.isDigit then
        Scan.skip
        return c.toNat - '0'.toNat
      else
        return 0

/- Read the signs after the mark of a block, in either order. -/
def readBlockHeader (start : Mark) : Scan (Chomping × Nat) := do
  match ← readChomping? with
  | some chomping => return (chomping, ← readIncrement start)
  | none =>
      let increment ← readIncrement start
      if increment = 0 then
        return (.clip, 0)
      else
        return ((← readChomping?).getD .clip, increment)

/- Pass over what may follow on the line of a block's mark. -/
def skipBlockHeaderLine (start : Mark) : Scan Unit := do
  Scan.need 1
  let _ ← Scan.takeWhile isBlank []
  if (← Scan.next?) = some '#' then
    Scan.skipToBreak
  match ← Scan.next? with
  | none => return ()
  | some c =>
      if isBreak c then
        Scan.need 2
        let _ ← Scan.takeBreak
      else
        Scan.fail start "did not find expected comment or line break"

/- The empty lines before a line of a block, latest first. -/
structure BlockGap where
  widest : Nat
  breaks : List Char
  deriving Repr

/-
  Pass over empty lines and indentation up to the given
  column, or over all of it if that is zero.
-/
def readBlockGap
    (start : Mark)
    (indent : Nat) : Scan BlockGap :=
  Scan.loop
    (fun (gap : BlockGap) => do
      Scan.need 1
      let c ← get
      let inside := indent = 0 ∨ c.mark.column < indent
      match c.rest.head? with
      | none => return .inr gap
      | some x =>
          if x = ' ' ∧ inside then
            Scan.skip
            return .inl
              { gap with widest := max gap.widest (c.mark.column + 1) }
          else if x = '\t' ∧ inside then
            Scan.fail start
              "found a tab character where an indentation space is expected"
          else if isBreak x then
            Scan.need 2
            let lineBreak ← Scan.takeBreak
            return .inl { gap with breaks := lineBreak ++ gap.breaks }
          else
            return .inr gap)
    ⟨0, []⟩

/-
  The break between two lines of a block: kept in a literal
  block and around lines that start with a blank, and else
  folded into a space.
-/
def blockBreak
    (literal : Bool)
    (afterBlank : Bool)
    (beforeBlank : Bool)
    (lineBreak : List Char)
    (breaks : List Char) : List Char :=
  if literal = false ∧ afterBlank = false
      ∧ beforeBlank = false ∧ lineBreak = ['\n'] then
    if breaks.isEmpty then [' '] else []
  else
    lineBreak

/-
  What was read of a block, latest first. The last line break
  and the empty lines since are kept apart.
-/
structure BlockLines where
  read : List Char
  afterBlank : Bool
  lineBreak : List Char
  breaks : List Char
  deriving Repr

/- Read the lines of a block at the given column. -/
def readBlockLines
    (start : Mark)
    (literal : Bool)
    (indent : Nat)
    (breaks : List Char) : Scan BlockLines :=
  Scan.loop
    (fun (block : BlockLines) => do
      let c ← get
      match c.rest.head? with
      | none => return .inr block
      | some x =>
          if c.mark.column = indent then
            let joined :=
              block.breaks
                ++ (blockBreak literal block.afterBlank (isBlank x)
                  block.lineBreak block.breaks ++ block.read)
            let read ← Scan.takeWhile (fun c => !isBreak c) joined
            Scan.need 2
            let lineBreak ← Scan.takeBreak
            let gap ← readBlockGap start indent
            return .inl ⟨read, isBlank x, lineBreak, gap.breaks⟩
          else
            return .inr block)
    ⟨[], false, [], breaks⟩

/-
  Read a block of lines inside a collection indented by
  `parent`. Without a digit for it, the first line that is not
  empty gives the indentation.
-/
def readBlock
    (literal : Bool)
    (parent : Int) : Scan String := do
  let start ← Scan.mark
  Scan.skip
  let (chomping, increment) ← readBlockHeader start
  skipBlockHeaderLine start
  let given : Nat :=
    if increment = 0 then 0 else (max parent 0).toNat + increment
  let gap ← readBlockGap start given
  let indent : Nat :=
    if given = 0 then
      max (max gap.widest (parent + 1).toNat) 1
    else
      given
  Scan.need 1
  let block ← readBlockLines start literal indent gap.breaks
  let tail :=
    match chomping with
    | .strip => []
    | .clip => block.lineBreak
    | .keep => block.breaks ++ block.lineBreak
  return String.ofList (tail ++ block.read).reverse

end Document

end TemplateJsx
