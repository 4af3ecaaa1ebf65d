import TemplateJsx.Document.Token

/-
  This file reads the parts of a document's text that say how
  it is written: directives before a document, and the names
  of types before nodes.

  Key definitions include:
    * `Document.readAnchor`
    * `Document.readTag`
    * `Document.readDirective`
-/

------------------------------------------------------------
-- Names
------------------------------------------------------------

namespace TemplateJsx

namespace Document

/- The characters of names. -/
def isNameChar (c : Char) : Bool :=
  c.isAlphanum || c == '_' || c == '-'

/- The marks that may follow the name of an anchor. -/
def endsAnchor (cs : List Char) : Bool :=
  endsWord cs
    || (cs.head?.any fun c =>
      c == '?' || c == ':' || c == ',' || c == ']'
        || c == '\x7d' || c == '%' || c == '@' || c == '\x60')

/- Read the name of an anchor after its mark. -/
def readAnchor : Scan String := do
  let start ← Scan.mark
  Scan.skip
  Scan.need 1
  let name ← Scan.takeWhile isNameChar []
  if name.isEmpty ∨ endsAnchor (← get).rest = false then
    Scan.fail start
      "did not find expected alphabetic or numeric character"
  else
    return String.ofList name.reverse

------------------------------------------------------------
-- Tags
------------------------------------------------------------

/-
  Read the handle of a tag, in reverse: an exclamation mark, or
  a name between two of them. Elsewhere than in a directive the
  second may be missing.
-/
def readHandle
    (start : Mark)
    (inDirective : Bool) : Scan (List Char) := do
  Scan.need 1
  if (← Scan.next?) ≠ some '!' then
    Scan.fail start "did not find expected '!'"
  else
    Scan.skip
    Scan.need 1
    let handle ← Scan.takeWhile isNameChar ['!']
    if (← Scan.next?) = some '!' then
      Scan.skip
      return '!' :: handle
    else if inDirective ∧ handle ≠ ['!'] then
      Scan.fail start "did not find expected '!'"
    else
      return handle

/- The characters of tags other than those of names. -/
def isTagMark (c : Char) : Bool :=
  c ∈ [';', '/', '?', ':', '@', '&', '=', '+', '$', ',', '.', '!',
    '~', '*', '\'', '(', ')', '[', ']', '%']

/- How many bytes a character has by its first, or zero. -/
def encodedWidth (octet : Nat) : Nat :=
  if octet < 0x80 then 1
  else if octet / 0x20 = 6 then 2
  else if octet / 0x10 = 14 then 3
  else if octet / 0x08 = 30 then 4
  else 0

/- Read a byte that is written in hexadecimal digits. -/
def readOctet (start : Mark) : Scan Nat := do
  Scan.need 3
  match (← get).rest with
  | '%' :: digits =>
      match hexValue? 2 0 digits with
      | some octet =>
          Scan.skipSome 3
          return octet
      | none => Scan.fail start "did not find URI escaped octet"
  | _ => Scan.fail start "did not find URI escaped octet"

/- Read the bytes of a character after its first. -/
def readTrailing
    (start : Mark) :
    (left : Nat) → (code : Nat) → Scan Nat
  | 0, code => return code
  | left + 1, code => do
      let octet ← readOctet start
      if octet / 0x40 = 2 then
        readTrailing start left (code * 0x40 + octet % 0x40)
      else
        Scan.fail start "found an incorrect trailing UTF-8 octet"

/- Read a character that is written in bytes. -/
def readOctets (start : Mark) : Scan Char := do
  let octet ← readOctet start
  match encodedWidth octet with
  | 0 => Scan.fail start "found an incorrect leading UTF-8 octet"
  | 1 => return Char.ofNat octet
  | width + 1 =>
      let code ←
        readTrailing start width
          (octet % Nat.pow 2 (6 - width))
      return (charOf? code).getD '\ufffd'

/- Read on in a tag, of which something may stand before. -/
def readTagText
    (start : Mark)
    (before : List Char)
    (named : Bool) : Scan (List Char) := do
  Scan.need 1
  let (read, named) ← Scan.loop
    (fun (read, named) => do
      match ← Scan.next? with
      | none => return .inr (read, named)
      | some c =>
          if c = '%' then
            let decoded ← readOctets start
            Scan.need 1
            return .inl (decoded :: read, true)
          else if isNameChar c || isTagMark c then
            Scan.skip
            Scan.need 1
            return .inl (c :: read, true)
          else
            return .inr (read, named))
    (before, named)
  if named then
    return read
  else
    Scan.fail start "did not find expected tag URI"

/- Read a tag as its handle and what follows it. -/
def readTagParts (start : Mark) : Scan (String × String) := do
  Scan.need 2
  if (← get).rest.tail.head? = some '<' then
    Scan.skipSome 2
    let rest ← readTagText start [] false
    if (← Scan.next?) = some '>' then
      Scan.skip
      return ("", String.ofList rest.reverse)
    else
      Scan.fail start "did not find the expected '>'"
  else
    let handle ← readHandle start false
    if 1 < handle.length ∧ handle.head? = some '!' then
      let rest ← readTagText start [] false
      return (String.ofList handle.reverse,
        String.ofList rest.reverse)
    else
      let rest ← readTagText start handle.dropLast true
      if rest.isEmpty then
        return ("", "!")
      else
        return ("!", String.ofList rest.reverse)

/- Read a tag, after which a word has to end. -/
def readTag : Scan (String × String) := do
  let start ← Scan.mark
  let parts ← readTagParts start
  Scan.need 1
  if endsWord (← get).rest then
    return parts
  else
    Scan.fail start "did not find expected whitespace or line break"

------------------------------------------------------------
-- Directives
------------------------------------------------------------

/- Pass over blanks. -/
def skipBlanks : Scan Unit := do
  Scan.need 1
  let _ ← Scan.takeWhile isBlank []

/- Read a number of one or two digits. -/
def readVersionNumber (start : Mark) : Scan Nat := do
  Scan.need 1
  let (value, digits) ← Scan.loop
    (fun (value, digits) => do
      match ← Scan.next? with
      | none => return .inr (value, digits)
      | some c =>
          if c.isDigit = false then
            return .inr (value, digits)
          else if 2 ≤ digits then
            Scan.fail start "found extremely long version number"
          else
            Scan.skip
            Scan.need 1
            return .inl
              (value * 10 + (c.toNat - '0'.toNat), digits + 1))
    (0, 0)
  if digits = 0 then
    Scan.fail start "did not find expected version number"
  else
    return value

/- Read the version that a directive asks for. -/
def readVersion (start : Mark) : Scan TokenKind := do
  skipBlanks
  let major ← readVersionNumber start
  if (← Scan.next?) ≠ some '.' then
    Scan.fail start "did not find expected digit or '.' character"
  else
    Scan.skip
    let minor ← readVersionNumber start
    return .versionDirective major minor

/- Read a handle with what tags start with that use it. -/
def readTagDirective (start : Mark) : Scan TokenKind := do
  skipBlanks
  let handle ← readHandle start true
  Scan.need 1
  if (← Scan.next?).any isBlank = false then
    Scan.fail start "did not find expected whitespace"
  else
    skipBlanks
    let opening ← readTagText start [] false
    Scan.need 1
    if endsWord (← get).rest then
      return .tagDirective (String.ofList handle.reverse)
        (String.ofList opening.reverse)
    else
      Scan.fail start
        "did not find expected whitespace or line break"

/- Read the name of a directive after its mark. -/
def readDirectiveName (start : Mark) : Scan String := do
  Scan.need 1
  let name ← Scan.takeWhile isNameChar []
  if name.isEmpty then
    Scan.fail start "could not find expected directive name"
  else if endsWord (← get).rest = false then
    Scan.fail start "found unexpected non-alphabetical character"
  else
    return String.ofList name.reverse

/-
  Read a directive. The positions before and after it do not
  include the end of its line.
-/
def readDirective : Scan Token := do
  let start ← Scan.mark
  Scan.skip
  let name ← readDirectiveName start
  let kind ←
    if name = "YAML" then
      readVersion start
    else if name = "TAG" then
      readTagDirective start
    else
      Scan.fail start "found unknown directive name"
  let stop ← Scan.mark
  skipBlanks
  if (← Scan.next?) = some '#' then
    Scan.skipToBreak
  match ← Scan.next? with
  | none => return ⟨kind, start, stop, .none⟩
  | some c =>
      if isBreak c then
        Scan.need 2
        let _ ← Scan.takeBreak
        return ⟨kind, start, stop, .none⟩
      else
        Scan.fail start "did not find expected comment or line break"

end Document

end TemplateJsx
