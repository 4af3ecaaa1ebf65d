import TemplateJsx.Document.Layout
import TemplateJsx.Document.Node

/-
  This file builds the tree of a document from its tokens. A
  text may hold several documents; only the first is read.

  Key definitions include:
    * `Document.Take`
    * `Document.takeProperties`
    * `Document.takeNode`
    * `Document.takeDirectives`
    * `Document.takeRoot`
    * `Document.ofText`
-/

------------------------------------------------------------
-- Taking Tokens
------------------------------------------------------------

namespace TemplateJsx

namespace Document

/-
  The tokens to come, and the nodes that names refer to. The
  nodes with an anchor are numbered in the order of their
  anchors; those that are not complete yet are missing.
-/
structure TreeState where
  layout : Layout
  /- The numbers that names stand for, latest first. -/
  anchors : List (String × Nat)
  nodes : Array (Option Node)
  /- The nodes with an anchor as far as they were known. -/
  outlines : Array (Option Node)
  /- Whether a reference was met inside its own node. -/
  isCyclic : Bool
  /- What the handles of tags stand for. -/
  handles : List (String × String)

/- A step that takes tokens. -/
abbrev Take (α : Type) :=
  StateT TreeState (Except SyntaxError) α

namespace Take

/- The next token, which stays. -/
def peek : Take Token := do
  let (token, layout) ← Layout.Step.token.run (← get).layout
  modify fun s => { s with layout := layout }
  return token

/- Take the next token. -/
def skip : Take Unit := do
  let ((), layout) ← Layout.Step.take.run (← get).layout
  modify fun s => { s with layout := layout }

/- Let a name refer to the node that starts here. -/
def openAnchor (name : Option String) : Take (Option Nat) :=
  match name with
  | none => return none
  | some name => do
      let number := (← get).nodes.size
      modify fun s =>
        { s with
          anchors := (name, number) :: s.anchors
          nodes := s.nodes.push none }
      return some number

/- The node that an anchor stands before is complete. -/
def closeAnchor
    (number : Option Nat)
    (node : Node) : Take Unit :=
  match number with
  | none => return ()
  | some number =>
      modify fun s =>
        { s with nodes := s.nodes.setIfInBounds number (some node) }

/-
  The node that a name refers to. Inside that node only its
  outline is known.
-/
def resolve (name : String) : Take Node := do
  let s ← get
  match s.anchors.lookup name with
  | none =>
      throw ⟨0, "unknown anchor '" ++ name ++ "' referenced"⟩
  | some number =>
      match s.nodes[number]?.join with
      | some node => return node
      | none =>
          modify fun s => { s with isCyclic := true }
          return (s.outlines[number]?.join).getD (.sequence [] 0)

/- Fail at a token inside a collection. -/
def failAt
    {α : Type}
    (context : Mark)
    (token : Token)
    (problem : String) : Take α :=
  throw (.inTokens context token.start problem)

end Take

------------------------------------------------------------
-- Properties of Nodes
------------------------------------------------------------

/- What stands before the content of a node. -/
structure Properties where
  start : Mark
  anchor : Option String
  /- The handle and the rest of a tag, and where it starts. -/
  tag : Option (String × String × Mark)

/- What stands before the content of a node, in any order. -/
def takeProperties : Take Properties := do
  let first ← Take.peek
  match first.kind with
  | .anchor name => do
      Take.skip
      let next ← Take.peek
      match next.kind with
      | .tag handle rest =>
          Take.skip
          return ⟨first.start, some name,
            some (handle, rest, next.start)⟩
      | _ => return ⟨first.start, some name, none⟩
  | .tag handle rest => do
      let tag := (handle, rest, first.start)
      Take.skip
      let next ← Take.peek
      match next.kind with
      | .anchor name =>
          Take.skip
          return ⟨first.start, some name, some tag⟩
      | _ => return ⟨first.start, none, some tag⟩
  | _ => return ⟨first.start, none, none⟩

/- What the tags of the notation itself start with. -/
def notationTags : String := "tag:yaml.org,2002:"

/- A tag in short. -/
def shortTag (tag : String) : String :=
  if tag.startsWith notationTags then
    "!!" ++ String.ofList (tag.toList.drop notationTags.length)
  else
    tag

/- The tag of a node, if it has one. -/
def resolveTag
    (properties : Properties) : Take (Option String) := do
  match properties.tag with
  | none => return none
  | some ("", rest, _) => return some rest
  | some (handle, rest, mark) =>
      match (← get).handles.lookup handle with
      | some opening => return some (opening ++ rest)
      | none =>
          throw
            (.inTokens properties.start mark
              "found undefined tag handle")

/- The style of a scalar, which a tag can replace. -/
def taggedStyle
    (tag : Option String)
    (style : ScalarStyle) : ScalarStyle :=
  match tag with
  | none => style
  | some tag =>
      if tag = "!" then style else .tagged (shortTag tag)

------------------------------------------------------------
-- Nodes
------------------------------------------------------------

/- A missing node, which stands for nothing. -/
def missing (mark : Mark) : Node :=
  .scalar .plain "" (mark.line + 1)

/- Tokens that end an entry of an indented mapping. -/
def endsBlockEntry : TokenKind → Bool
  | .key => true
  | .value => true
  | .blockEnd => true
  | _ => false

/- Where a node stands. -/
inductive Place where
  /- In a flow collection. -/
  | flow
  /- Where indented collections may stand. -/
  | block
  /-
    After a key of an indented mapping, where a sequence may
    stand at the indentation of the mapping.
  -/
  | blockValue
  deriving DecidableEq, Repr

open Take

mutual

/-
  A node. The depth of the recursion is bounded by `limit`,
  for which some times the number of characters suffices.
-/
def takeNode
    (limit : Nat)
    (place : Place) : Take Node :=
  match limit with
  | 0 => throw ⟨0, "unexpected end of tokens"⟩
  | limit + 1 => do
      let first ← peek
      match first.kind with
      | .reference name =>
          skip
          let target ← resolve name
          return .reference name target (first.start.line + 1)
            first.start.column
      | _ =>
          let properties ← takeProperties
          let tag ← resolveTag properties
          takeContent limit place properties tag

/- The content of a node, after its properties. -/
def takeContent
    (limit : Nat)
    (place : Place)
    (properties : Properties)
    (tag : Option String) : Take Node :=
  match limit with
  | 0 => throw ⟨0, "unexpected end of tokens"⟩
  | limit + 1 => do
      let start := properties.start
      let line := start.line + 1
      let token ← peek
      let anchored (content : Take Node) : Take Node := do
        let number ← openAnchor properties.anchor
        let node ← content
        closeAnchor number node
        return node
      let sequence (items : Take (List Node)) : Take Node :=
        anchored (do return .sequence (← items) line)
      let mapping (entries : Take (List Entry)) : Take Node :=
        anchored (do return .mapping (← entries) line)
      let inBlock := place != .flow
      match token.kind with
      | .scalar style text =>
          skip
          anchored
            (return .scalar (taggedStyle tag style) text line)
      | .flowSequenceStart =>
          skip
          sequence (takeFlowItems limit token.start true)
      | .flowMappingStart =>
          skip
          mapping (takeFlowEntries limit token.start true)
      | _ =>
          if token.kind = .blockEntry ∧ place = .blockValue then
            sequence (takeIndentless limit)
          else if token.kind = .blockSequenceStart ∧ inBlock then
            skip
            sequence (takeBlockItems limit token.start)
          else if token.kind = .blockMappingStart ∧ inBlock then
            skip
            mapping (takeBlockEntries limit token.start)
          else if properties.anchor.isSome ∨ tag.isSome then
            anchored
              (return .scalar (taggedStyle tag .plain) "" line)
          else
            failAt start token "did not find expected node content"

/- The items of an indented sequence. -/
def takeBlockItems
    (limit : Nat)
    (start : Mark) : Take (List Node) :=
  match limit with
  | 0 => throw ⟨0, "unexpected end of tokens"⟩
  | limit + 1 => do
      let token ← peek
      match token.kind with
      | .blockEntry =>
          skip
          let next ← peek
          let item ←
            if next.kind = .blockEntry ∨ next.kind = .blockEnd then
              pure (missing token.stop)
            else
              takeNode limit .block
          let others ← takeBlockItems limit start
          return item :: others
      | .blockEnd =>
          skip
          return []
      | _ =>
          failAt start token "did not find expected '-' indicator"

/- The items of a sequence at its mapping's indentation. -/
def takeIndentless
    (limit : Nat) : Take (List Node) :=
  match limit with
  | 0 => throw ⟨0, "unexpected end of tokens"⟩
  | limit + 1 => do
      let token ← peek
      match token.kind with
      | .blockEntry =>
          skip
          let next ← peek
          let item ←
            if next.kind = .blockEntry ∨ endsBlockEntry next.kind then
              pure (missing token.stop)
            else
              takeNode limit .block
          let others ← takeIndentless limit
          return item :: others
      | _ => return []

/- The entries of an indented mapping. -/
def takeBlockEntries
    (limit : Nat)
    (start : Mark) : Take (List Entry) :=
  match limit with
  | 0 => throw ⟨0, "unexpected end of tokens"⟩
  | limit + 1 => do
      let token ← peek
      match token.kind with
      | .key =>
          skip
          let next ← peek
          let key ←
            if endsBlockEntry next.kind then
              pure (missing token.stop)
            else
              takeNode limit .blockValue
          let value ← takeBlockValue limit
          let others ← takeBlockEntries limit start
          return ⟨key, value⟩ :: others
      | .blockEnd =>
          skip
          return []
      | _ => failAt start token "did not find expected key"

/- The value of an entry of an indented mapping. -/
def takeBlockValue
    (limit : Nat) : Take Node :=
  match limit with
  | 0 => throw ⟨0, "unexpected end of tokens"⟩
  | limit + 1 => do
      let token ← peek
      match token.kind with
      | .value =>
          skip
          let next ← peek
          if endsBlockEntry next.kind then
            return missing token.stop
          else
            takeNode limit .blockValue
      | _ => return missing token.start

/- The items of a flow sequence. -/
def takeFlowItems
    (limit : Nat)
    (start : Mark)
    (first : Bool) : Take (List Node) :=
  match limit with
  | 0 => throw ⟨0, "unexpected end of tokens"⟩
  | limit + 1 => do
      let token ← peek
      if token.kind = .flowSequenceEnd then
        skip
        return []
      if first = false then
        if token.kind = .flowEntry then
          skip
        else
          failAt start token "did not find expected ',' or ']'"
      let token ← peek
      match token.kind with
      | .flowSequenceEnd =>
          skip
          return []
      | .key =>
          skip
          let item ← takeFlowPair limit token.start
          let others ← takeFlowItems limit start false
          return item :: others
      | _ =>
          let item ← takeNode limit .flow
          let others ← takeFlowItems limit start false
          return item :: others

/- A mapping of one entry, without braces, in a sequence. -/
def takeFlowPair
    (limit : Nat)
    (start : Mark) : Take Node :=
  match limit with
  | 0 => throw ⟨0, "unexpected end of tokens"⟩
  | limit + 1 => do
      let token ← peek
      let ends (kind : TokenKind) : Bool :=
        kind == .flowEntry || kind == .flowSequenceEnd
      let key ←
        if token.kind = .value ∨ ends token.kind then do
          skip
          pure (missing token.stop)
        else
          takeNode limit .flow
      let token ← peek
      let value ←
        if token.kind = .value then do
          skip
          let next ← peek
          if ends next.kind then
            pure (missing next.start)
          else
            takeNode limit .flow
        else
          pure (missing token.start)
      return .mapping [⟨key, value⟩] (start.line + 1)

/- The entries of a flow mapping. -/
def takeFlowEntries
    (limit : Nat)
    (start : Mark)
    (first : Bool) : Take (List Entry) :=
  match limit with
  | 0 => throw ⟨0, "unexpected end of tokens"⟩
  | limit + 1 => do
      let token ← peek
      if token.kind = .flowMappingEnd then
        skip
        return []
      if first = false then
        if token.kind = .flowEntry then
          skip
        else
          failAt start token "did not find expected ',' or '\x7d'"
      let token ← peek
      match token.kind with
      | .flowMappingEnd =>
          skip
          return []
      | .key =>
          skip
          let next ← peek
          let key ←
            if next.kind = .value ∨ next.kind = .flowEntry
                ∨ next.kind = .flowMappingEnd then
              pure (missing next.start)
            else
              takeNode limit .flow
          let value ← takeFlowValue limit
          let others ← takeFlowEntries limit start false
          return ⟨key, value⟩ :: others
      | _ =>
          let key ← takeNode limit .flow
          let value := missing (← peek).start
          let others ← takeFlowEntries limit start false
          return ⟨key, value⟩ :: others

/- The value of an entry of a flow mapping. -/
def takeFlowValue
    (limit : Nat) : Take Node :=
  match limit with
  | 0 => throw ⟨0, "unexpected end of tokens"⟩
  | limit + 1 => do
      let token ← peek
      if token.kind = .value then
        skip
        let next ← peek
        if next.kind = .flowEntry ∨ next.kind = .flowMappingEnd then
          return missing next.start
        else
          takeNode limit .flow
      else
        return missing token.start

end

------------------------------------------------------------
-- Documents
------------------------------------------------------------

/- Tokens between which a document may be empty. -/
def endsDocument : TokenKind → Bool
  | .versionDirective _ _ => true
  | .tagDirective _ _ => true
  | .documentStart => true
  | .documentEnd => true
  | .streamEnd => true
  | _ => false

/- What handles stand for without a directive. -/
def standardHandles : List (String × String) :=
  [("!", "!"), ("!!", notationTags)]

/-
  The directives before a document: at most one for the
  version, which is 1.1, and one for each handle.
-/
def takeDirectives : (limit : Nat) → (versioned : Bool) → Take Unit
  | 0, _ => throw ⟨0, "unexpected end of tokens"⟩
  | limit + 1, versioned => do
      let token ← peek
      match token.kind with
      | .versionDirective major minor =>
          if versioned then
            failAt .start token "found duplicate %YAML directive"
          else if major ≠ 1 ∨ minor ≠ 1 then
            failAt .start token "found incompatible YAML document"
          else
            skip
            takeDirectives limit true
      | .tagDirective handle opening =>
          if ((← get).handles.lookup handle).isSome then
            failAt .start token "found duplicate %TAG directive"
          else
            modify fun s =>
              { s with handles := s.handles ++ [(handle, opening)] }
            skip
            takeDirectives limit versioned
      | _ =>
          modify fun s =>
            { s with handles := s.handles ++ standardHandles }

/- The content of a document that has a mark before it. -/
def takeMarked (limit : Nat) : Take Node := do
  let token ← peek
  if token.kind = .documentStart then
    skip
    let next ← peek
    if endsDocument next.kind then
      return missing next.start
    else
      takeNode limit .block
  else
    failAt .start token "did not find expected <document start>"

/-
  The root of the first document, if there is a document. The
  token after it has to be one.
-/
def takeRoot (limit : Nat) : Take (Option Node) := do
  let _ ← peek
  skip
  let token ← peek
  if token.kind = .streamEnd then
    return none
  else
    takeDirectives limit false
    let root ←
      if endsDocument token.kind && token.kind != .documentEnd then
        takeMarked limit
      else
        takeNode limit .block
    let _ ← peek
    return some root

/-
  Read the first document of a text, with outlines of the
  nodes that contain references to themselves. If there are
  such nodes, they are read anew with what is known of them
  by then.
-/
def readTree
    (text : String) :
    (rounds : Nat) → Array (Option Node) →
      Except SyntaxError (Option Node)
  | rounds, outlines => do
      let layout := Layout.start text
      let (root, s) ←
        (takeRoot (16 * layout.cursor.limit)).run
          { layout := layout
            anchors := []
            nodes := #[]
            outlines := outlines
            isCyclic := false
            handles := [] }
      match rounds with
      | 0 => return root
      | rounds + 1 =>
          if s.isCyclic then
            readTree text rounds s.nodes
          else
            return root

/-
  The tree of the first document of a text. A text of blanks
  and comments holds no document. Reading looks through at
  most two references, one after the other, so that two rounds
  more give all there is to see of nodes that contain
  themselves.
-/
def ofText (text : String) : Except SyntaxError (Option Node) :=
  readTree text 2 #[]

end Document

end TemplateJsx
