import TemplateJsx.Proofs.Decoding

/-
  A text that is handed over in base 64 is read back. The
  digits give the bytes of the text, group by group, and the
  bytes its characters, one by one. Lists of texts in base 64
  are read like lists of texts.

  Key definitions include:
    * `Text.base64Of`
    * `Text.toBase64`
    * `Document.Node.IsBase64`

  Main declarations:
    * `Text.base64Bytes?_base64Of`
    * `Text.charsOfBytes_flatMap`
    * `Text.ofBase64?_of_toBase64`
    * `Template.textsField_of_base64`
-/

------------------------------------------------------------
-- Writing in Base 64
------------------------------------------------------------

namespace TemplateJsx

namespace Text

/- The digits, by their values. -/
def base64Alphabet : List Char :=
  ("ABCDEFGHIJKLMNOPQRSTUVWXYZ" ++ "abcdefghijklmnopqrstuvwxyz"
    ++ "0123456789+/").toList

/- The digit of a value. -/
def base64Char (n : Nat) : Char :=
  base64Alphabet.getD n '='

/- The values of the digits of three bytes. -/
def base64Values (a b c : UInt8) : List Nat :=
  [a.toNat / 4,
    a.toNat % 4 * 16 + b.toNat / 16,
    b.toNat % 16 * 4 + c.toNat / 64,
    c.toNat % 64]

/- The digits of bytes. -/
def base64Of : List UInt8 → List Char
  | [] => []
  | [a] =>
      ((base64Values a 0 0).take 2).map base64Char ++ ['=', '=']
  | [a, b] =>
      ((base64Values a b 0).take 3).map base64Char ++ ['=']
  | a :: b :: c :: rest =>
      (base64Values a b c).map base64Char ++ base64Of rest

/- A text in base 64. -/
def toBase64 (text : String) : List Char :=
  base64Of (text.toList.flatMap String.utf8EncodeChar)

------------------------------------------------------------
-- Digits
------------------------------------------------------------

/- Each digit has its value. -/
theorem base64Digit?_base64Char
    {n : Nat}
    (hDigit : n < 64) :
    base64Digit? (base64Char n) = some n := by
  have hAll : ∀ n < 64,
      base64Digit? (base64Char n) = some n := by
    decide +kernel
  exact hAll n hDigit

/- No digit is a filler. -/
theorem base64Char_ne
    {n : Nat}
    (hDigit : n < 64) :
    base64Char n ≠ '=' := by
  intro hFiller
  have hValue := base64Digit?_base64Char hDigit
  rw [hFiller] at hValue
  have hNone : base64Digit? '=' = none := rfl
  rw [hNone] at hValue
  cases hValue

/- Three bytes are read from their digits. -/
theorem base64Group_of_bytes
    (a b c : UInt8) :
    base64Group (a.toNat / 4)
        (a.toNat % 4 * 16 + b.toNat / 16)
        (b.toNat % 16 * 4 + c.toNat / 64)
        (c.toNat % 64) =
      [a, b, c] := by
  have ha := a.toNat_lt
  have hb := b.toNat_lt
  have hc := c.toNat_lt
  have hFirst :
      a.toNat / 4 * 4 + (a.toNat % 4 * 16 + b.toNat / 16) / 16 =
        a.toNat := by
    omega
  have hSecond :
      (a.toNat % 4 * 16 + b.toNat / 16) % 16 * 16
          + (b.toNat % 16 * 4 + c.toNat / 64) / 4 =
        b.toNat := by
    omega
  have hThird :
      (b.toNat % 16 * 4 + c.toNat / 64) % 4 * 64
          + c.toNat % 64 =
        c.toNat := by
    omega
  rw [base64Group, hFirst, hSecond, hThird, UInt8.ofNat_toNat,
    UInt8.ofNat_toNat, UInt8.ofNat_toNat]

/- Bytes are read from their digits. -/
theorem base64Bytes?_base64Of
    (bytes : List UInt8) :
    base64Bytes? (base64Of bytes) = some bytes := by
  have hRead {n : Nat} (hDigit : n < 64) :
      base64Digit? (base64Char n) = some n :=
    base64Digit?_base64Char hDigit
  -- A group that is not filled up has zeros for its digits.
  induction bytes using base64Of.induct with
  | case1 => rfl
  | case2 a =>
      have ha := a.toNat_lt
      have hGroup := base64Group_of_bytes a 0 0
      change base64Bytes? [_, _, '=', '='] = _
      rw [base64Bytes?, hRead (by omega), hRead (by simp; omega)]
      exact congrArg (fun group => some (group.take 1)) hGroup
  | case3 a b =>
      have ha := a.toNat_lt
      have hb := b.toNat_lt
      have hGroup := base64Group_of_bytes a b 0
      change base64Bytes? [_, _, _, '='] = _
      rw [base64Bytes?, hRead (by omega), hRead (by omega),
        hRead (by simp; omega)]
      · exact congrArg (fun group => some (group.take 2)) hGroup
      · exact base64Char_ne (by simp; omega)
  | case4 a b c rest ih =>
      have ha := a.toNat_lt
      have hb := b.toNat_lt
      have hc := c.toNat_lt
      change base64Bytes? (_ :: _ :: _ :: _ :: base64Of rest) = _
      have hLast : base64Char (c.toNat % 64) ≠ '=' :=
        base64Char_ne (by omega)
      rw [base64Bytes?, hRead (by omega), hRead (by omega),
        hRead (by omega), hRead (by omega), ih]
      · exact congrArg (fun group => some (group ++ rest))
          (base64Group_of_bytes a b c)
      · exact fun _ hFiller => absurd hFiller hLast
      · exact fun hFiller => absurd hFiller hLast

------------------------------------------------------------
-- Characters
------------------------------------------------------------

/- Bytes that belong to the character before are left out. -/
theorem charsFrom_append
    (bytes rest : List UInt8) :
    charsFrom bytes.length (bytes ++ rest) = charsFrom 0 rest := by
  induction bytes with
  | nil => rfl
  | cons byte more ih => exact ih

/- The bytes of a character are read as the character. -/
theorem charsFrom_utf8EncodeChar
    (c : Char)
    (rest : List UInt8) :
    charsFrom 0 (String.utf8EncodeChar c ++ rest) =
      c :: charsFrom 0 rest := by
  have hSize := String.length_utf8EncodeChar c
  have hFour : c.utf8Size ≤ 4 := c.utf8Size_le_four
  have hDecoded (others : List UInt8) :
      (String.utf8EncodeChar c ++ others).toByteArray.utf8DecodeChar? 0 =
        some c := by
    rw [List.toByteArray_append]
    exact ByteArray.utf8DecodeChar?_utf8EncodeChar_append
  cases hBytes : String.utf8EncodeChar c with
  | nil =>
      rw [hBytes] at hSize
      have hPos := c.utf8Size_pos
      simp at hSize
      omega
  | cons byte more =>
      rw [hBytes, List.length_cons] at hSize
      have hTaken :
          byte :: (more ++ rest).take 3 =
            String.utf8EncodeChar c
              ++ rest.take (3 - more.length) := by
        rw [hBytes, List.take_append,
          List.take_of_length_le (by omega), List.cons_append]
      rw [List.cons_append, charsFrom, hTaken, hDecoded]
      dsimp only
      rw [← hSize, Nat.add_sub_cancel, charsFrom_append]

/- The bytes of characters are read as the characters. -/
theorem charsOfBytes_flatMap
    (cs : List Char) :
    charsOfBytes (cs.flatMap String.utf8EncodeChar) = cs := by
  induction cs with
  | nil => rfl
  | cons c rest ih =>
      rw [charsOfBytes, List.flatMap_cons, charsFrom_utf8EncodeChar]
      exact congrArg (c :: ·) ih

/-
  A text in base 64 is read back, wherever its lines are
  broken.
-/
theorem ofBase64?_of_toBase64
    {text digits : String}
    (hDigits :
      digits.toList.filter (!isLineBreak ·) = toBase64 text) :
    ofBase64? digits = some text := by
  rw [ofBase64?, hDigits, toBase64, base64Bytes?_base64Of,
    Option.map_some, charsOfBytes_flatMap, String.ofList_toList]

end Text

------------------------------------------------------------
-- Scalars in Base 64
------------------------------------------------------------

namespace Document

/-
  A scalar that holds a text in base 64, with its lines
  broken anywhere.
-/
def Node.IsBase64
    (node : Node)
    (text : String) : Prop :=
  ∃ digits line,
    node = .scalar (.tagged Scalar.binaryTag) digits line
      ∧ digits.toList.filter (!Text.isLineBreak ·) =
        Text.toBase64 text

theorem Node.IsBase64.readsAs
    {node : Node}
    {text : String}
    (hNode : node.IsBase64 text) :
    node.ReadsAs text := by
  intro p hNone
  rcases hNode with ⟨digits, line, rfl, hDigits⟩
  have hValue : Scalar.resolve (.tagged Scalar.binaryTag) digits =
      .ok (.text text) := by
    have hUnspelled : Scalar.binaryTag ∉ Scalar.spelledTags := by
      decide
    rw [Scalar.resolve, Scalar.ofTagged, if_neg hUnspelled,
      if_pos rfl, Text.ofBase64?_of_toBase64 hDigits]
  have hRead {q : Progress} :
      readValue (.tagged Scalar.binaryTag) digits q =
        .ok (.text text, q) := by
    rw [readValue, hValue]
    rfl
  exact (bind_eq_of_ok (visit_eq_ok hNone)).trans
    (bind_eq_of_ok hRead)

end Document

/- The texts of a field may be given in base 64. -/
theorem Template.textsField_of_base64
    {entries : List Document.Entry}
    {key : String}
    {items : List Document.Node}
    {line : Nat}
    {texts : List String}
    (hKey :
      Document.find? entries key = some (.sequence items line))
    (hTexts :
      List.Forall₂ Document.Node.IsBase64 items texts) :
    textsField entries key = .ok texts :=
  textsField_of_readsAs hKey
    (hTexts.imp (fun _ _ hNode => hNode.readsAs))

example :
    Template.textsField
        [⟨.ofText "blockParams",
          .ofItems [.scalar (.tagged "!!binary") "eA==" 1]⟩]
        "blockParams" =
      .ok ["x"] := by
  rfl

end TemplateJsx
