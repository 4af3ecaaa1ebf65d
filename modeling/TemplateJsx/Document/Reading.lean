import TemplateJsx.Document.Scalar
import TemplateJsx.Text.Quoted

/-
  This file defines how nodes of a document are read as
  values of a wanted type. A reading goes on after a
  mismatch, so that all of them are reported.

  Key definitions include:
    * `Document.Mismatch`
    * `Document.Mismatch.listMessage`
    * `Document.ReadFailure`
    * `Document.Progress`
    * `Document.Reading`
    * `Document.Reading.outcome`
    * `Document.readTarget`
    * `Document.readBoolean`
    * `Document.readInteger`
    * `Document.readText`
    * `Document.readTexts`
    * `Document.repeatedKeys`
-/

------------------------------------------------------------
-- Mismatches
------------------------------------------------------------

namespace TemplateJsx

namespace Document

/- Why a node cannot be read as what is wanted. -/
inductive Mismatch where
  /- A scalar of another type. -/
  | scalar
      (line : Nat) (tag : String) (text : String)
      (wanted : String)
  /- A collection where something else is wanted. -/
  | collection (line : Nat) (tag : String) (wanted : String)
  /- A key that stands in its mapping already. -/
  | repeated (line : Nat) (key : String) (former : Nat)
  /- A field that another spelling of its key has set. -/
  | fieldSet (line : Nat) (key : String) (owner : String)
  deriving DecidableEq, Repr

namespace Mismatch

/-
  The characters that fit in a number of bytes. Each byte of
  a character that does not fit as a whole is shown as the
  replacement character.
-/
def takeBytes : Nat → List Char → List Char
  | _, [] => []
  | room, c :: rest =>
      if c.utf8Size ≤ room then
        c :: takeBytes (room - c.utf8Size) rest
      else
        List.replicate room '\ufffd'

/- A text in back quotes, cut short beyond ten bytes. -/
def excerpt (text : String) : String :=
  let shown :=
    if 10 < text.utf8ByteSize then
      String.ofList (takeBytes 7 text.toList) ++ "..."
    else
      text
  "`" ++ shown ++ "`"

/- The wording of a mismatch. -/
def message : Mismatch → String
  | .scalar line tag text wanted =>
      "line " ++ line.repr ++ ": cannot unmarshal " ++ tag
        ++ " " ++ excerpt text ++ " into " ++ wanted
  | .collection line tag wanted =>
      "line " ++ line.repr ++ ": cannot unmarshal " ++ tag
        ++ " into " ++ wanted
  | .repeated line key former =>
      "line " ++ line.repr ++ ": mapping key "
        ++ Text.quoted key ++ " already defined at line "
        ++ former.repr
  | .fieldSet line key owner =>
      "line " ++ line.repr ++ ": field " ++ key
        ++ " already set in type " ++ owner

/- The wording of several mismatches. -/
def listMessage (mismatches : List Mismatch) : String :=
  "yaml: unmarshal errors:\n  "
    ++ Text.joinWith "\n  " (mismatches.map message)

end Mismatch

------------------------------------------------------------
-- Failures
------------------------------------------------------------

/- Why a node cannot be read. -/
inductive ReadFailure where
  /- Parts of the node have another type. -/
  | mistyped (mismatches : List Mismatch)
  /- Almost all of what is read is reached by references. -/
  | excessiveReferences
  /- A reference is reached through itself. -/
  | selfContaining (name : String)
  /- A scalar does not spell what its tag asks for. -/
  | misspelled (spelled : String) (text : String) (tag : String)
  /- A scalar is not in base 64, as its tag asks for. -/
  | notBase64
  deriving DecidableEq, Repr

/- The wording of a failure. -/
def ReadFailure.message : ReadFailure → String
  | .mistyped mismatches => Mismatch.listMessage mismatches
  | .excessiveReferences =>
      "yaml: document contains excessive aliasing"
  | .selfContaining name =>
      "yaml: anchor '" ++ name ++ "' value contains itself"
  | .misspelled spelled text tag =>
      "yaml: cannot decode " ++ spelled ++ " `" ++ text
        ++ "` as a " ++ tag
  | .notBase64 =>
      "yaml: !!binary value contains invalid base64 data"

------------------------------------------------------------
-- Readings
------------------------------------------------------------

/-
  What has been read: how many nodes, how many of them were
  reached by a reference, and the mismatches, latest first.
-/
structure Progress where
  visited : Nat
  referred : Nat
  mismatches : List Mismatch
  deriving Repr

namespace Progress

/- Nothing has been read. -/
def none : Progress :=
  ⟨0, 0, []⟩

/- One more node, reached by a reference or not. -/
def visit
    (p : Progress)
    (byReference : Bool) : Progress :=
  { p with
    visited := p.visited + 1
    referred := p.referred + if byReference then 1 else 0 }

/-
  Whether too large a part was reached by references. Of up
  to 400000 nodes it may be 99 percent, of 4000000 and more
  ten percent, and in between it falls in proportion. A few
  nodes do not count.
-/
def IsExcessive (p : Progress) : Prop :=
  100 < p.referred ∧ 1000 < p.visited
    ∧ (if p.visited ≤ 400000 then
        99 * p.visited < 100 * p.referred
      else if 4000000 ≤ p.visited then
        p.visited < 10 * p.referred
      else
        p.visited * (99 * 3600000 - 89 * (p.visited - 400000))
          < 360000000 * p.referred)

instance (p : Progress) : Decidable p.IsExcessive := by
  unfold IsExcessive
  infer_instance

end Progress

/-
  A reading of nodes. It goes on after a mismatch, but not
  after another failure.
-/
abbrev Reading (α : Type) :=
  StateT Progress (Except ReadFailure) α

namespace Reading

variable {α : Type}

/- Report a mismatch. -/
def mismatch (m : Mismatch) : Reading Unit :=
  modify fun p => { p with mismatches := m :: p.mismatches }

/- Report several mismatches, in order. -/
def mismatchAll (ms : List Mismatch) : Reading Unit :=
  modify fun p =>
    { p with mismatches := ms.reverse ++ p.mismatches }

/- Count a node that is read. -/
def visit (byReference : Bool) : Reading Unit := do
  let p := (← get).visit byReference
  if p.IsExcessive then
    throw .excessiveReferences
  else
    set p

/- What a reading gives if there was no mismatch. -/
def outcome (reading : Reading α) : Except ReadFailure α :=
  match reading.run .none with
  | .error failure => .error failure
  | .ok (value, p) =>
      match p.mismatches with
      | [] => .ok value
      | mismatches => .error (.mistyped mismatches.reverse)

end Reading

/- Where references stand that are being followed. -/
abbrev Trail :=
  List (Nat × Nat)

/- Read the node that a node stands for. -/
def readTarget
    {α : Type}
    (read : Trail → Node → Reading α) :
    Trail → Node → Reading α
  | trail, .reference name target line column => do
      Reading.visit (!trail.isEmpty)
      if (line, column) ∈ trail then
        throw (.selfContaining name)
      else
        readTarget read ((line, column) :: trail) target
  | trail, node => do
      Reading.visit (!trail.isEmpty)
      read trail node

/- Whether the node that a node stands for is nothing. -/
def targetsNull : Node → Bool
  | .reference _ target _ _ => targetsNull target
  | node => decide node.IsNull

------------------------------------------------------------
-- Repeated Keys
------------------------------------------------------------

/- Whether two keys have the same form and the same text. -/
def sameKey : Node → Node → Bool
  | .scalar _ a _, .scalar _ b _ => a == b
  | .sequence _ _, .sequence _ _ => true
  | .mapping _ _, .mapping _ _ => true
  | .reference a _ _ _, .reference b _ _ _ => a == b
  | _, _ => false

/- The later uses of each key of a mapping. -/
def repeatedKeys : List Entry → List Mismatch
  | [] => []
  | e :: rest =>
      (rest.filter (fun later => sameKey e.key later.key)).map
          (fun later =>
            .repeated later.key.line later.key.text e.key.line)
        ++ repeatedKeys rest

/-
  A mapping where something else is wanted. If it repeats
  keys, that is reported in place of its type.
-/
def unwantedMapping
    (entries : List Entry)
    (line : Nat)
    (wanted : String) : List Mismatch :=
  match repeatedKeys entries with
  | [] => [.collection line "!!map" wanted]
  | repeated => repeated

------------------------------------------------------------
-- Scalars
------------------------------------------------------------

/- The value of a scalar, unless its tag forbids it. -/
def readValue
    (style : ScalarStyle)
    (text : String) : Reading Scalar :=
  match Scalar.resolve style text with
  | .ok value => return value
  | .error (.spells spelled) =>
      throw
        (.misspelled spelled text (style.tagOf text (.text text)))
  | .error .notBase64 => throw .notBase64

/- Read a node that is no reference and not what is wanted. -/
def readUnwanted
    (wanted : String)
    (node : Node) : Reading Unit := do
  match node with
  | .scalar style text line =>
      let value ← readValue style text
      if value ≠ .null then
        Reading.mismatch
          (.scalar line (style.tagOf text value) text wanted)
  | .sequence _ line =>
      Reading.mismatch (.collection line "!!seq" wanted)
  | .mapping entries line =>
      Reading.mismatchAll (unwantedMapping entries line wanted)
  | .reference _ _ _ _ => return ()

/-
  Read a scalar by its value and its text. Collections are
  not wanted, and a scalar that stands for nothing gives
  nothing.
-/
def readScalar
    {α : Type}
    (wanted : String)
    (read : Scalar → String → Option α)
    (node : Node) : Reading (Option α) := do
  match node with
  | .scalar style text line =>
      let value ← readValue style text
      if value = .null then
        return none
      else
        match read value text with
        | some result => return some result
        | none =>
            Reading.mismatch
              (.scalar line (style.tagOf text value) text wanted)
            return none
  | _ =>
      readUnwanted wanted node
      return none

------------------------------------------------------------
-- Wanted Types
------------------------------------------------------------

/- The texts that are read as true where truth is wanted. -/
def yesWords : List String :=
  ["y", "Y", "yes", "Yes", "YES", "on", "On", "ON"]

/- The texts that are read as false where truth is wanted. -/
def noWords : List String :=
  ["n", "N", "no", "No", "NO", "off", "Off", "OFF"]

/- The truth value of a scalar. -/
def booleanOf? : Scalar → Option Bool
  | .boolean value => some value
  | .text text =>
      if text ∈ yesWords then
        some true
      else if text ∈ noWords then
        some false
      else
        none
  | _ => none

/- A node as a truth value. -/
def readBoolean :
    Trail → Node → Reading (Option Bool) :=
  readTarget fun _ =>
    readScalar "bool" (fun value _ => booleanOf? value)

/-
  The integer of 64 bits of a number, cut off after the
  point. What is too small, or just too large, becomes the
  smallest integer.
-/
def truncated? (x : Number) : Option Int :=
  if x.IsNaN then
    none
  else if ¬ x.IsFinite then
    if x.negative then some Integer.minSigned else none
  else
    let n := x.truncate
    if Integer.maxSigned + 1 < n then
      none
    else if n = Integer.maxSigned + 1 ∨ n < Integer.minSigned then
      some Integer.minSigned
    else
      some n

/- The integer of a scalar. -/
def integerOf? : Scalar → Option Int
  | .integer n => Integer.inRange? n
  | .number x => truncated? x
  | _ => none

/- A node as an integer. -/
def readInteger :
    Trail → Node → Reading (Option Int) :=
  readTarget fun _ =>
    readScalar "int" (fun value _ => integerOf? value)

/- The text of a scalar: its value, or else what was written. -/
def textOf (written : String) : Scalar → String
  | .text text => text
  | _ => written

/- A node as a text: any scalar. -/
def readText :
    Trail → Node → Reading (Option String) :=
  readTarget fun _ =>
    readScalar "string"
      (fun value written => some (textOf written value))

/- Nodes as texts. Those that stand for nothing are left out. -/
def readItems
    (trail : Trail) : List Node → Reading (List String)
  | [] => return []
  | item :: rest => do
      let first ← readText trail item
      let others ← readItems trail rest
      return first.toList ++ others

/-
  A node as a list of texts. What stands for nothing has no
  items.
-/
def readTexts :
    Trail → Node → Reading (List String) :=
  readTarget fun trail node => do
    match node with
    | .sequence items _ => readItems trail items
    | _ =>
        readUnwanted "[]string" node
        return []

end Document

end TemplateJsx
