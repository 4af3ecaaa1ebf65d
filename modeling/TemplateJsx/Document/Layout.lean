import TemplateJsx.Document.Directive

/-
  This file divides the text of a document into tokens, one
  after the other as they are wanted. The indentation of the
  collections that are open is kept, and for each level of
  flow collections the place where a key may have started:
  only the colon after it shows that it is one, and then the
  tokens before it are completed.

  Key definitions include:
    * `Document.KeyPlace`
    * `Document.KeyLevel`
    * `Document.Layout`
    * `Document.Layout.roll`
    * `Document.Layout.unroll`
    * `Document.Layout.saveKey`
    * `Document.Layout.removeKey`
    * `Document.Layout.fetch`
    * `Document.Layout.isReady`
    * `Document.Layout.token`
-/

------------------------------------------------------------
-- State
------------------------------------------------------------

namespace TemplateJsx

namespace Document

/-
  A place where a key may have started. A key is required if
  nothing else can stand there.
-/
structure KeyPlace where
  token : Nat
  required : Bool
  mark : Mark
  deriving Repr

/-
  A level of flow collections: the place where a key may have
  started, and the number of the token last noted as such a
  place, which at first is the token that opens the level.
-/
structure KeyLevel where
  noted : Nat
  key : Option KeyPlace
  deriving Repr

/- The state between two tokens. -/
structure Layout where
  cursor : Cursor
  tokens : Array Token
  /- How many tokens have been taken. -/
  taken : Nat
  indent : Int
  outerIndents : List Int
  keyAllowed : Bool
  level : KeyLevel
  outerLevels : List KeyLevel
  flowLevel : Nat
  deriving Repr

namespace Layout

/- The state before the first token of a text. -/
def start (text : String) : Layout where
  cursor := .start text
  tokens := #[]
  taken := 0
  indent := -1
  outerIndents := []
  keyAllowed := true
  level := ⟨0, none⟩
  outerLevels := []
  flowLevel := 0

/- Whether a flow collection is open. -/
def inFlow (s : Layout) : Bool :=
  s.flowLevel != 0

/- A step, which may find an error. -/
abbrev Step (α : Type) :=
  StateT Layout (Except SyntaxError) α

namespace Step

/- Read on in the text. -/
def scan
    {α : Type}
    (read : Scan α) : Step α := do
  let (result, cursor) ← read.run (← get).cursor
  modify fun s => { s with cursor := cursor }
  return result

/- The position. -/
def mark : Step Mark := do
  return (← get).cursor.mark

/- Fail here, in a construct that started at `context`. -/
def fail
    {α : Type}
    (context : Mark)
    (problem : String) : Step α := do
  throw (.inText context (← mark) problem)

------------------------------------------------------------
-- Tokens
------------------------------------------------------------

/- Add a token. -/
def push (token : Token) : Step Unit :=
  modify fun s => { s with tokens := s.tokens.push token }

/- Add a token made of the next characters. -/
def pushNext
    (kind : TokenKind)
    (width : Nat)
    (chance : KeyChance) : Step Unit := do
  let start ← mark
  scan (Scan.skipSome width)
  push ⟨kind, start, ← mark, chance⟩

/-
  Insert a token without width at a place. If the token there
  has been taken already, it comes last.
-/
def insert
    (place : Nat)
    (kind : TokenKind)
    (mark : Mark) : Step Unit :=
  modify fun s =>
    let token : Token := ⟨kind, mark, mark, .none⟩
    if place < s.taken then
      { s with tokens := s.tokens.push token }
    else
      { s with
        tokens := s.tokens.insertIdxIfInBounds place token }

/- No key starts at a token. -/
def dismiss (place : Nat) : Step Unit :=
  modify fun s =>
    { s with
      tokens :=
        s.tokens.modify place fun token =>
          { token with chance := .none } }

------------------------------------------------------------
-- Indentation
------------------------------------------------------------

/- The most collections that may be open at a time. -/
def depthLimit : Nat := 10000

/-
  Open a collection at a column that is indented deeper than
  those around it.
-/
def roll
    (column : Nat)
    (place : Nat)
    (kind : TokenKind)
    (mark : Mark) : Step Unit := do
  let s ← get
  if s.inFlow ∨ (column : Int) ≤ s.indent then
    return ()
  else
    modify fun s =>
      { s with
        outerIndents := s.indent :: s.outerIndents
        indent := column }
    if depthLimit < s.outerIndents.length + 1 then
      fail mark "exceeded max depth of 10000"
    else
      insert place kind mark

/- Close the collections that are indented deeper. -/
def unrollWith
    (column : Int)
    (mark : Mark) : List Int → Step Unit
  | [] => return ()
  | outer :: rest => do
      if column < (← get).indent then
        push ⟨.blockEnd, mark, mark, .none⟩
        modify fun s =>
          { s with indent := outer, outerIndents := rest }
        unrollWith column mark rest
      else
        return ()

/- Close what a column ends. Flow collections ignore it. -/
def unroll
    (column : Int)
    (mark : Mark) : Step Unit := do
  let s ← get
  if s.inFlow then
    return ()
  else
    unrollWith column mark s.outerIndents

------------------------------------------------------------
-- Possible Keys
------------------------------------------------------------

/- The complaint about a key without its colon. -/
def missingColon : String := "could not find expected ':'"

/- No key starts at the place noted before. -/
def removeKey : Step Unit := do
  match (← get).level.key with
  | none => return ()
  | some place =>
      if place.required then
        fail place.mark missingColon
      else
        modify fun s =>
          { s with level := { s.level with key := none } }
        dismiss place.token

/- Note that a key may start at the next token, if one may. -/
def saveKey : Step KeyChance := do
  let s ← get
  if s.keyAllowed then
    removeKey
    let place : KeyPlace :=
      { token := s.tokens.size
        required :=
          !s.inFlow && s.indent == (s.cursor.mark.column : Int)
        mark := s.cursor.mark }
    modify fun s =>
      { s with level := ⟨place.token, some place⟩ }
    return if place.required then .required else .possible
  else
    return .none

/-
  Whether it is too late for a key that starts there. The
  colon follows on the same line, at most 1024 characters
  later.
-/
def isPast (start : Mark) : Step Bool := do
  let here ← mark
  return start.line < here.line || start.index + 1024 < here.index

------------------------------------------------------------
-- The Next Token
------------------------------------------------------------

/- Allow a key to start with the next token, or forbid it. -/
def allowKey (allowed : Bool) : Step Unit :=
  modify fun s => { s with keyAllowed := allowed }

/-
  Pass over blanks, comments and line breaks, and give whether
  a key may start there. A tab is no blank where a key may
  start outside flow collections. Where the view was opened at
  a byte order mark, the first character of a line does not
  count.
-/
def skipToToken
    (flow : Bool)
    (keyAllowed : Bool) : Scan Bool :=
  Scan.loop
    (fun keyAllowed => do
      Scan.need 1
      let c ← get
      if c.mark.column = 0 ∧ c.viewAtMark then
        Scan.skip
      Scan.need 1
      let tabs := flow || !keyAllowed
      let _ ←
        Scan.takeWhile (fun c => c == ' ' || (tabs && c == '\t')) []
      if (← Scan.next?) = some '#' then
        Scan.skipComments
      if (← Scan.next?).any isBreak then
        Scan.need 2
        let _ ← Scan.takeBreak
        return .inl (keyAllowed || !flow)
      else
        return .inr keyAllowed)
    keyAllowed

/- End the text. The end lies at the start of a line. -/
def fetchEnd : Step Unit := do
  modify fun s =>
    let mark := s.cursor.mark
    if mark.column = 0 then
      s
    else
      { s with cursor := { s.cursor with mark := mark.nextLine 0 } }
  unroll (-1) (← mark)
  removeKey
  allowKey false
  push ⟨.streamEnd, ← mark, ← mark, .none⟩

/- A directive before a document. -/
def fetchDirective : Step Unit := do
  unroll (-1) (← mark)
  removeKey
  allowKey false
  push (← scan readDirective)

/- A mark between documents. -/
def fetchDocumentMark (kind : TokenKind) : Step Unit := do
  unroll (-1) (← mark)
  removeKey
  allowKey false
  pushNext kind 3 .none

/- Open a flow collection. -/
def fetchFlowStart (kind : TokenKind) : Step Unit := do
  let chance ← saveKey
  modify fun s =>
    { s with
      level := ⟨s.tokens.size, none⟩
      outerLevels := s.level :: s.outerLevels
      flowLevel := s.flowLevel + 1 }
  if depthLimit < (← get).flowLevel then
    fail (← mark) "exceeded max depth of 10000"
  allowKey true
  pushNext kind 1 chance

/-
  Close a flow collection. No key starts any more at the place
  noted last inside it, or, if there was none, at its own
  start.
-/
def fetchFlowEnd (kind : TokenKind) : Step Unit := do
  removeKey
  let s ← get
  match s.outerLevels with
  | [] => pure ()
  | level :: outer =>
      dismiss s.level.noted
      modify fun s =>
        { s with
          level := level
          outerLevels := outer
          flowLevel := s.flowLevel - 1 }
  allowKey false
  pushNext kind 1 .none

/- Continue to the next entry of a flow collection. -/
def fetchFlowEntry : Step Unit := do
  removeKey
  allowKey true
  pushNext .flowEntry 1 .none

/- Check that a collection may start here by indentation. -/
def checkBlock (problem : String) : Step Unit := do
  let s ← get
  if s.inFlow = false ∧ s.keyAllowed = false then
    fail s.cursor.mark problem

/- Open a collection by indentation here, if there is none. -/
def rollHere (kind : TokenKind) : Step Unit := do
  let s ← get
  let mark := s.cursor.mark
  roll mark.column s.tokens.size kind mark

/- Continue to the next entry of an indented sequence. -/
def fetchBlockEntry : Step Unit := do
  checkBlock "block sequence entries are not allowed in this context"
  rollHere .blockSequenceStart
  removeKey
  allowKey true
  pushNext .blockEntry 1 .none

/- A key that is marked as one. -/
def fetchKey : Step Unit := do
  checkBlock "mapping keys are not allowed in this context"
  rollHere .blockMappingStart
  removeKey
  allowKey (!(← get).inFlow)
  pushNext .key 1 .none

/- A value after a key that had no mark of its own. -/
def fetchValueOfKey (place : KeyPlace) : Step Unit := do
  dismiss place.token
  insert place.token .key place.mark
  roll place.mark.column place.token .blockMappingStart place.mark
  modify fun s =>
    { s with level := { s.level with key := none } }
  allowKey false
  pushNext .value 1 .none

/- A value after a key with a mark, or after none. -/
def fetchValueAlone : Step Unit := do
  checkBlock "mapping values are not allowed in this context"
  rollHere .blockMappingStart
  allowKey (!(← get).inFlow)
  pushNext .value 1 .none

/- A value, by what is known of its key. -/
def fetchValue : Step Unit := do
  match (← get).level.key with
  | none => fetchValueAlone
  | some place =>
      if ← isPast place.mark then
        if place.required then
          fail place.mark missingColon
        else
          modify fun s =>
            { s with level := { s.level with key := none } }
          fetchValueAlone
      else
        fetchValueOfKey place

/- A token that starts here and may start a key. -/
def fetchNode (read : Scan TokenKind) : Step Unit := do
  let chance ← saveKey
  allowKey false
  let start ← mark
  let kind ← scan read
  push ⟨kind, start, ← mark, chance⟩

/- A block of lines. -/
def fetchBlockScalar (literal : Bool) : Step Unit := do
  removeKey
  allowKey true
  let start ← mark
  let text ← scan (readBlock literal (← get).indent)
  push ⟨.scalar .quoted text, start, ← mark, .none⟩

/- A plain scalar. A key may start on a line after it. -/
def fetchPlain : Step Unit := do
  let chance ← saveKey
  let s ← get
  let start ← mark
  let plain ← scan (readPlain s.inFlow (s.indent + 1))
  allowKey plain.onNewLine
  push ⟨.scalar .plain plain.text, start, ← mark, chance⟩

/- The marks that cannot start a plain scalar. -/
def isIndicator (c : Char) : Bool :=
  c == '-' || c == '?' || c == ':' || c == ',' || c == '['
    || c == ']' || c == '\x7b' || c == '\x7d' || c == '#'
    || c == '&' || c == '*' || c == '!' || c == '|'
    || c == '>' || c == '\'' || c == '"' || c == '%'
    || c == '@' || c == '\x60'

/- Whether a plain scalar starts with these characters. -/
def startsPlain
    (flow : Bool)
    (c : Char)
    (rest : List Char) : Bool :=
  !(isBlank c || isBreak c || isIndicator c)
    || (c == '-' && !(rest.head?.any isBlank))
    || (!flow && (c == '?' || c == ':') && !endsWord rest)

/- A token of a node or around nodes, by its characters. -/
def fetchContent
    (c : Char)
    (rest : List Char) : Step Unit := do
  let flow := (← get).inFlow
  if c = '[' then
    fetchFlowStart .flowSequenceStart
  else if c = '\x7b' then
    fetchFlowStart .flowMappingStart
  else if c = ']' then
    fetchFlowEnd .flowSequenceEnd
  else if c = '\x7d' then
    fetchFlowEnd .flowMappingEnd
  else if c = ',' then
    fetchFlowEntry
  else if c = '-' ∧ endsWord rest then
    fetchBlockEntry
  else if c = '?' ∧ (flow || endsWord rest) then
    fetchKey
  else if c = ':' ∧ (flow || endsWord rest) then
    fetchValue
  else if c = '*' then
    fetchNode (TokenKind.reference <$> readAnchor)
  else if c = '&' then
    fetchNode (TokenKind.anchor <$> readAnchor)
  else if c = '!' then
    fetchNode ((fun (a, b) => TokenKind.tag a b) <$> readTag)
  else if c = '|' ∧ flow = false then
    fetchBlockScalar true
  else if c = '>' ∧ flow = false then
    fetchBlockScalar false
  else if c = '\'' then
    fetchNode (TokenKind.scalar .quoted <$> readQuoted false)
  else if c = '"' then
    fetchNode (TokenKind.scalar .quoted <$> readQuoted true)
  else if startsPlain flow c rest then
    fetchPlain
  else
    fail (← mark) "found character that cannot start any token"

/- A token by its first characters. -/
def fetchAt
    (c : Char)
    (rest : List Char) : Step Unit := do
  let atLineStart := (← mark).column = 0
  if atLineStart ∧ c = '%' then
    fetchDirective
  else if atLineStart ∧ isDocumentMark (c :: rest) then
    fetchDocumentMark
      (if c = '-' then .documentStart else .documentEnd)
  else
    fetchContent c rest
    if (← get).tokens.back?.any (·.kind != .blockEntry) then
      scan Scan.skipLineComment

/- The next token, and the ends of what it is not part of. -/
def fetch : Step Unit := do
  scan (Scan.need 1)
  let s ← get
  if s.tokens.isEmpty then
    push ⟨.streamStart, s.cursor.mark, s.cursor.mark, .none⟩
  else
    let before := s.cursor.mark
    allowKey (← scan (skipToToken s.inFlow s.keyAllowed))
    unroll (← mark).column before
    scan (Scan.need 4)
    match (← get).cursor.rest with
    | [] => fetchEnd
    | c :: rest => fetchAt c rest

------------------------------------------------------------
-- Taking Tokens
------------------------------------------------------------

/-
  Whether the next token can be taken: two more tokens are
  known after it, and it can no longer turn out to start a
  key.
-/
def isReady : Step Bool := do
  let s ← get
  if s.taken + 2 < s.tokens.size then
    match s.tokens[s.taken]? with
    | none => return false
    | some token =>
        if token.chance = .none then
          return true
        else if ← isPast token.start then
          if token.chance = .required then
            fail token.start missingColon
          else
            return true
        else
          return false
  else
    return false

/- The next token, once it is ready. -/
def tokenWithin : (limit : Nat) → Step Token
  | 0 => throw ⟨0, "unexpected end of tokens"⟩
  | limit + 1 => do
      if ← isReady then
        let s ← get
        return s.tokens[s.taken]?.getD default
      else
        fetch
        tokenWithin limit

/- The next token, which stays. -/
def token : Step Token := do
  tokenWithin (← get).cursor.limit

/- Take the next token. -/
def take : Step Unit :=
  modify fun s => { s with taken := s.taken + 1 }

end Step

end Layout

end Document

end TemplateJsx
