/-
  This file defines the texts that are written in base 64.
  Four digits stand for three bytes, and the last group is
  filled up with equals signs. Line breaks do not count.

  Key definitions include:
    * `Text.base64Digit?`
    * `Text.base64Bytes?`
    * `Text.charsOfBytes`
    * `Text.ofBase64?`
-/

------------------------------------------------------------
-- Digits
------------------------------------------------------------

namespace TemplateJsx

namespace Text

/- The value of a digit. -/
def base64Digit? (c : Char) : Option Nat :=
  if c.isUpper then
    some (c.toNat - 'A'.toNat)
  else if c.isLower then
    some (c.toNat - 'a'.toNat + 26)
  else if c.isDigit then
    some (c.toNat - '0'.toNat + 52)
  else if c = '+' then
    some 62
  else if c = '/' then
    some 63
  else
    none

/- The bytes of a group of digits. -/
def base64Group (a b c d : Nat) : List UInt8 :=
  [.ofNat (a * 4 + b / 16),
    .ofNat (b % 16 * 16 + c / 4),
    .ofNat (c % 4 * 64 + d)]

/-
  The bytes of digits. Of a group that is filled up, the bits
  beyond its last byte do not count.
-/
def base64Bytes? : List Char → Option (List UInt8)
  | [] => some []
  | [a, b, '=', '='] => do
      let a ← base64Digit? a
      let b ← base64Digit? b
      return (base64Group a b 0 0).take 1
  | [a, b, c, '='] => do
      let a ← base64Digit? a
      let b ← base64Digit? b
      let c ← base64Digit? c
      return (base64Group a b c 0).take 2
  | a :: b :: c :: d :: rest => do
      let a ← base64Digit? a
      let b ← base64Digit? b
      let c ← base64Digit? c
      let d ← base64Digit? d
      let others ← base64Bytes? rest
      return base64Group a b c d ++ others
  | _ => none

------------------------------------------------------------
-- Characters
------------------------------------------------------------

/-
  The characters of bytes, without those bytes at the start
  that belong to a character before them. A byte that is no
  part of a character is read as the replacement character.
-/
def charsFrom : Nat → List UInt8 → List Char
  | _, [] => []
  | taken + 1, _ :: rest => charsFrom taken rest
  | 0, byte :: rest =>
      match (byte :: rest.take 3).toByteArray.utf8DecodeChar? 0 with
      | some c => c :: charsFrom (c.utf8Size - 1) rest
      | none => '\ufffd' :: charsFrom 0 rest

/- The characters of bytes. -/
def charsOfBytes (bytes : List UInt8) : List Char :=
  charsFrom 0 bytes

/- Line breaks, which may stand anywhere among digits. -/
def isLineBreak (c : Char) : Bool :=
  c == '\n' || c == '\r'

/- The text that is written in base 64. -/
def ofBase64? (text : String) : Option String :=
  (base64Bytes? (text.toList.filter (!isLineBreak ·))).map
    (fun bytes => String.ofList (charsOfBytes bytes))

end Text

end TemplateJsx
