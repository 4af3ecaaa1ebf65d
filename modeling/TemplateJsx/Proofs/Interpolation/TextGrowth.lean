import TemplateJsx.Proofs.Interpolation.NumberText

/-
  Texts behind the text of a number. Digits behind the text
  of an integer make up a text that denotes much more than
  the integer and the digits together. Neither a sign nor a
  second exponent can follow there in the text of a number,
  and nothing but a point or an exponent can follow a zero.

  Key definitions include:
    * `Number.Grows`
    * `Number.signed`
    * `Number.Barren`

  Main declarations:
    * `Number.IsInteger.grows`
    * `Number.Grows.le_decimalValue_append`
    * `Number.Grows.append_digits`
    * `Number.magnitudeText_eq_of_text`
    * `Number.Grows.not_shape_minus`
    * `Number.Grows.not_shape_exponent`
    * `Number.IsInteger.text_cases`
-/

------------------------------------------------------------
-- Digits behind a Text
------------------------------------------------------------

namespace TemplateJsx

namespace Number

variable {x : Number}
variable {cs whole after exponent digits : List Char}

/-
  Texts without a sign that digits may follow: digits, or an
  exponent that is not negative.
-/
inductive Grows : List Char → Prop
  | digits
      {cs : List Char}
      (hDigits : ∀ c ∈ cs, c.isDigit = true)
      (hValue : 1 ≤ decimalValue cs) :
      Grows cs
  | exponent
      {lead : Char}
      {after size : List Char}
      (hLead : lead.isDigit = true)
      (hAfter : ∀ c ∈ after, c.isDigit = true)
      (hSize : ∀ c ∈ size, c.isDigit = true)
      (hPos : 1 ≤ Nat.ofDigitChars 10 size 0)
      (hValue :
        1 ≤ decimalValue
          (pointed [lead] after ++ 'e' :: '+' :: size)) :
      Grows (pointed [lead] after ++ 'e' :: '+' :: size)

theorem Grows.one_le
    (hGrows : Grows cs) :
    1 ≤ decimalValue cs := by
  cases hGrows with
  | digits _ hValue => exact hValue
  | exponent _ _ _ _ hValue => exact hValue

/- Digits that denote something are not missing. -/
theorem ne_nil_of_decimalValue
    (hDigits : ∀ c ∈ cs, c.isDigit = true)
    (hOne : 1 ≤ decimalValue cs) :
    cs ≠ [] := by
  rintro rfl
  rw [decimalValue_digits hDigits] at hOne
  norm_num [Nat.ofDigitChars_nil] at hOne

/- A text that grows is made of digits or has an exponent. -/
theorem Grows.cases
    (hGrows : Grows cs) :
    ((∀ c ∈ cs, c.isDigit = true) ∧ 1 ≤ decimalValue cs) ∨
      ∃ lead after size, lead.isDigit = true ∧
        cs = pointed [lead] after ++ 'e' :: '+' :: size := by
  cases hGrows with
  | digits hDigits hOne => exact .inl ⟨hDigits, hOne⟩
  | exponent hLead _ _ _ _ => exact .inr ⟨_, _, _, hLead, rfl⟩

/- A text that grows starts with a digit. -/
theorem Grows.eq_cons
    (hGrows : Grows cs) :
    ∃ c rest, cs = c :: rest ∧ c.isDigit = true := by
  cases hGrows with
  | digits hDigits hOne =>
      cases cs with
      | nil =>
          exact absurd rfl
            (ne_nil_of_decimalValue hDigits hOne)
      | cons c rest =>
          exact ⟨c, rest, rfl, hDigits c List.mem_cons_self⟩
  | @exponent lead after size hLead hAfter _ _ _ =>
      unfold pointed
      split
      · exact ⟨lead, _, rfl, hLead⟩
      · exact ⟨lead, _, rfl, hLead⟩

/- An integer other than zero has a text that grows. -/
theorem IsInteger.grows
    (hInteger : x.IsInteger)
    (hSig : x.significand ≠ 0) :
    Grows x.magnitudeText := by
  have hPower := hInteger.shortest_power_nonneg hSig
  have hPos := shortest_pos hSig
  have hOne : 1 ≤ decimalValue x.magnitudeText := by
    rw [(magnitudeText_of_ne hSig).2]
    have hFirst : (1 : ℚ) ≤ (shortest x).1 := by
      exact_mod_cast hPos
    have hSecond : (1 : ℚ) ≤ 10 ^ (shortest x).2 :=
      one_le_zpow₀ (by norm_num) hPower
    exact one_le_mul_of_one_le_of_one_le hFirst hSecond
  unfold magnitudeText at hOne ⊢
  rw [if_neg hSig] at hOne ⊢
  dsimp only at hOne ⊢
  generalize (shortest x).1 = n at *
  generalize (shortest x).2 = power at *
  split at hOne
  · rename_i hPlace
    rw [if_pos hPlace]
    refine .digits ?_ hOne
    unfold positional
    dsimp only
    rw [if_pos hPower]
    exact (denotes_append_zeros n power.toNat).digits_whole
  · rename_i hPlace
    rw [if_neg hPlace]
    rcases scientific_shape hPos power with
      ⟨lead, after, hShape, _⟩
    have hLength : 0 < (Nat.toDigits 10 n).length :=
      Nat.length_toDigits_pos
    have hExponent :
        0 < ((Nat.toDigits 10 n).length : Int) - 1 + power := by
      omega
    have hText := hShape.text
    generalize
      ((Nat.toDigits 10 n).length : Int) - 1 + power = exponent
        at hText hExponent
    unfold exponentText at hText
    rw [if_neg (by omega)] at hText
    rw [hText] at hOne ⊢
    refine .exponent
      (hShape.digits_whole lead List.mem_cons_self)
      hShape.digits_after ?_ ?_ hOne
    · intro c hMember
      exact Nat.isDigit_of_mem_toDigits (by decide) (by decide)
        hMember
    · rw [Nat.ofDigitChars_ten_toDigits]
      omega

/- A power of ten outgrows its exponent. -/
theorem exponent_outgrows
    {v : ℚ}
    {e t length : Nat}
    (hOne : 1 ≤ v * 10 ^ e)
    (hPos : 1 ≤ e)
    (hLength : 1 ≤ length) :
    19 / 10 * (v * 10 ^ e + t) ≤
      v * 10 ^ (e * 10 ^ length + t) := by
  have hTen : 10 ≤ 10 ^ length :=
    le_self_pow₀ (by decide) (by omega)
  have hExponent : e + 9 + t ≤ e * 10 ^ length + t := by
    nlinarith
  have hPower : (10 : ℚ) ^ (e + 9 + t) ≤
      10 ^ (e * 10 ^ length + t) :=
    pow_le_pow_right₀ (by norm_num) hExponent
  have hSize : (t : ℚ) + 1 ≤ 10 ^ t := by
    exact_mod_cast Nat.lt_pow_self (by decide)
  have hNonneg : 0 ≤ v := by
    by_contra hNegative
    have hLess : v * 10 ^ e < 0 :=
      mul_neg_of_neg_of_pos (not_le.mp hNegative)
        (by positivity)
    linarith
  have hCount : (0 : ℚ) ≤ t := Nat.cast_nonneg t
  calc
    19 / 10 * (v * 10 ^ e + t)
        ≤ v * 10 ^ e * 10 ^ 9 * (t + 1) := by nlinarith
    _ ≤ v * 10 ^ e * 10 ^ 9 * 10 ^ t :=
      mul_le_mul_of_nonneg_left hSize (by positivity)
    _ = v * 10 ^ (e + 9 + t) := by ring
    _ ≤ v * 10 ^ (e * 10 ^ length + t) :=
      mul_le_mul_of_nonneg_left hPower hNonneg

/-
  A text that grows denotes much more with digits behind it
  than the text and the digits together.
-/
theorem Grows.le_decimalValue_append
    (hGrows : Grows cs)
    (hSome : digits ≠ [])
    (hDigits : ∀ c ∈ digits, c.isDigit = true) :
    19 / 10 *
        (decimalValue cs + Nat.ofDigitChars 10 digits 0) ≤
      decimalValue (cs ++ digits) := by
  have hLength : 1 ≤ digits.length :=
    List.length_pos_iff.mpr hSome
  cases hGrows with
  | digits hFirst hOne =>
      have hBoth := List.forall_mem_append.mpr ⟨hFirst, hDigits⟩
      rw [decimalValue_digits hFirst] at hOne ⊢
      rw [decimalValue_digits hBoth, ofDigitChars_append_eq]
      have hLess : (Nat.ofDigitChars 10 digits 0 : ℚ) + 1 ≤
          10 ^ digits.length := by
        exact_mod_cast ofDigitChars_lt hDigits
      have hTen : (10 : ℚ) ≤ 10 ^ digits.length :=
        le_self_pow₀ (by norm_num) (by omega)
      push_cast
      nlinarith
  | @exponent lead after size hLead hAfter hSize hPos hOne =>
      have hWhole : ∀ c ∈ [lead], c.isDigit = true := by
        simpa using hLead
      have hText :
          pointed [lead] after ++ 'e' :: '+' :: size ++ digits =
            pointed [lead] after ++
              'e' :: '+' :: (size ++ digits) :=
        List.append_assoc _ _ _
      rw [hText]
      rw [decimalValue_pointed hWhole hAfter (.inr rfl),
        exponentFactor] at hOne ⊢
      rw [decimalValue_pointed hWhole hAfter (.inr rfl),
        exponentFactor, ofDigitChars_append_eq]
      exact exponent_outgrows hOne hPos hLength

/- Digits behind a text that grows leave a text that grows. -/
theorem Grows.append_digits
    (hGrows : Grows cs)
    (hSome : digits ≠ [])
    (hDigits : ∀ c ∈ digits, c.isDigit = true) :
    Grows (cs ++ digits) := by
  have hOne : 1 ≤ decimalValue (cs ++ digits) := by
    have hMore := hGrows.le_decimalValue_append hSome hDigits
    have hFirst := hGrows.one_le
    have hCount : (0 : ℚ) ≤ Nat.ofDigitChars 10 digits 0 :=
      Nat.cast_nonneg _
    linarith
  cases hGrows with
  | digits hFirst _ =>
      exact .digits
        (List.forall_mem_append.mpr ⟨hFirst, hDigits⟩) hOne
  | @exponent lead after size hLead hAfter hSize hPos _ =>
      have hLarger :
          1 ≤ Nat.ofDigitChars 10 (size ++ digits) 0 := by
        rw [ofDigitChars_append_eq]
        exact le_add_right
          (Nat.mul_pos hPos (Nat.pow_pos (by decide)))
      rw [List.append_assoc] at hOne ⊢
      exact .exponent hLead hAfter
        (List.forall_mem_append.mpr ⟨hSize, hDigits⟩) hLarger
        hOne

------------------------------------------------------------
-- What No Text Starts With
------------------------------------------------------------

/- A text behind its sign. -/
def signed
    (negative : Bool)
    (cs : List Char) : List Char :=
  if negative then '-' :: cs else cs

theorem signed_true (cs : List Char) :
    signed true cs = '-' :: cs := rfl

theorem signed_false (cs : List Char) :
    signed false cs = cs := rfl

theorem signed_append
    (negative : Bool)
    (front back : List Char) :
    signed negative front ++ back =
      signed negative (front ++ back) := by
  unfold signed
  split
  · rfl
  · rfl

/- Two texts behind signs that start with digits. -/
theorem signed_cons_injective
    {negative negative' : Bool}
    {c c' : Char}
    {rest rest' : List Char}
    (hDigit : c.isDigit = true)
    (hDigit' : c'.isDigit = true)
    (hText :
      signed negative (c :: rest) =
        signed negative' (c' :: rest')) :
    c :: rest = c' :: rest' := by
  have hMinus : Char.isDigit '-' = false := by decide
  unfold signed at hText
  split at hText
  · split at hText
    · exact (List.cons.inj hText).2
    · exact absurd (List.cons.inj hText).1.symm
        (ne_of_isDigit hDigit' hMinus)
  · split at hText
    · exact absurd (List.cons.inj hText).1
        (ne_of_isDigit hDigit hMinus)
    · exact hText

theorem Shape.eq_cons
    (hShape : Shape cs whole after exponent) :
    ∃ c rest, cs = c :: rest ∧ c.isDigit = true := by
  have hText := hShape.text
  have hDigits := hShape.digits_whole
  cases whole with
  | nil => exact absurd rfl hShape.some_whole
  | cons c front =>
      have hDigit := hDigits c List.mem_cons_self
      unfold pointed at hText
      split at hText
      · exact ⟨c, _, hText, hDigit⟩
      · exact ⟨c, _, hText, hDigit⟩

/- A finite number is shown as its sign and its magnitude. -/
theorem toList_text
    (hFinite : x.IsFinite) :
    x.text.toList =
      signed (x.negative && x.significand != 0)
        x.magnitudeText := by
  have hNaN : ¬ x.IsNaN := fun h => hFinite h.1
  unfold text signed
  rw [if_neg hNaN, if_pos hFinite, String.toList_ofList]
  simp

theorem toList_text_of_zero
    (hFinite : x.IsFinite)
    (hSig : x.significand = 0) :
    x.text.toList = ['0'] := by
  have hSign : (x.negative && x.significand != 0) = false := by
    simp [hSig]
  rw [toList_text hFinite, hSign, signed_false,
    magnitudeText_of_zero hSig]

/-
  Only a finite number has a text that starts with a digit
  behind its sign, and the rest is that of its magnitude.
-/
theorem magnitudeText_eq_of_text
    {negative : Bool}
    {c : Char}
    {rest : List Char}
    (hDigit : c.isDigit = true)
    (hText : x.text.toList = signed negative (c :: rest)) :
    x.IsFinite ∧ x.magnitudeText = c :: rest := by
  by_cases hFinite : x.IsFinite
  · rw [toList_text hFinite] at hText
    rcases exists_shape x with ⟨_, _, _, hShape⟩
    rcases hShape.eq_cons with ⟨c', rest', hStart, hDigit'⟩
    rw [hStart] at hText ⊢
    exact ⟨hFinite, signed_cons_injective hDigit' hDigit hText⟩
  · -- What is not finite is shown as a word.
    have hLetter :
        (x.text.toList.dropWhile (· == '-')).head? ∈
          [some 'N', some 'I'] := by
      unfold text
      rw [if_neg hFinite]
      split
      · decide
      · split
        · decide
        · decide
    have hFirst :
        (x.text.toList.dropWhile (· == '-')).head? = some c := by
      have hMinus : (c == '-') = false := by
        rw [beq_eq_false_iff_ne]
        exact ne_of_isDigit hDigit rfl
      rw [hText]
      unfold signed
      split
      · simp [hMinus]
      · simp [hMinus]
    rw [hFirst] at hLetter
    simp only [List.mem_cons, Option.some.injEq,
      List.not_mem_nil, or_false] at hLetter
    rcases hLetter with rfl | rfl
    · exact absurd hDigit (by decide)
    · exact absurd hDigit (by decide)

/- No number has a text that starts with these characters. -/
def Barren (cs : List Char) : Prop :=
  ∀ (z : Number) (rest : List Char), z.text.toList ≠ cs ++ rest

theorem Barren.append
    (hBarren : Barren cs)
    (back : List Char) :
    Barren (cs ++ back) := by
  intro z rest
  rw [List.append_assoc]
  exact hBarren z (back ++ rest)

/- What no magnitude starts with, no number starts with. -/
theorem barren_signed
    {negative : Bool}
    {c : Char}
    {front : List Char}
    (hDigit : c.isDigit = true)
    (hNone : ∀ rest whole after exponent,
      ¬ Shape (c :: front ++ rest) whole after exponent) :
    Barren (signed negative (c :: front)) := by
  intro z rest hText
  rw [signed_append, List.cons_append] at hText
  have hMagnitude := (magnitudeText_eq_of_text hDigit hText).2
  rcases exists_shape z with ⟨whole, after, exponent, hShape⟩
  rw [hMagnitude] at hShape
  exact hNone rest whole after exponent hShape

/- Of a text that grows, what no magnitude starts with. -/
theorem Grows.barren
    (hGrows : Grows cs)
    (negative : Bool)
    {back : List Char}
    (hNone : ∀ rest whole after exponent,
      ¬ Shape (cs ++ back ++ rest) whole after exponent) :
    Barren (signed negative cs ++ back) := by
  rcases hGrows.eq_cons with ⟨c, rest, rfl, hDigit⟩
  rw [signed_append]
  exact barren_signed hDigit hNone

/- Behind digits there is no sign. -/
theorem not_shape_digits_minus
    (hDigits : ∀ c ∈ digits, c.isDigit = true)
    (rest : List Char) :
    ¬ Shape (digits ++ '-' :: rest) whole after exponent := by
  intro hShape
  have hRest :
      (digits ++ '-' :: rest).dropWhile Char.isDigit =
        '-' :: rest := by
    rw [List.dropWhile_append_of_pos hDigits]
    rfl
  have hNext := hShape.span_whole.2
  rw [hRest] at hNext
  simp at hNext

/- Zero has no digits behind it. -/
theorem not_shape_zero_digit
    {c : Char}
    (hDigit : c.isDigit = true)
    (rest : List Char) :
    ¬ Shape ('0' :: c :: rest) whole after exponent := by
  intro hShape
  have hFront :
      ('0' :: c :: rest).takeWhile Char.isDigit =
        '0' :: c :: rest.takeWhile Char.isDigit := by
    have hZero : Char.isDigit '0' = true := by decide
    rw [List.takeWhile_cons_of_pos hZero,
      List.takeWhile_cons_of_pos hDigit]
  have hWhole := hShape.span_whole.1
  have hLeading := hShape.leading
  rw [← hWhole, hFront] at hLeading
  exact absurd (hLeading rfl) (by simp)

/- Behind an exponent there are only digits. -/
theorem isDigit_of_shape_exponent
    {lead : Char}
    {places size rest : List Char}
    (hLead : lead.isDigit = true)
    (hPlaces : ∀ c ∈ places, c.isDigit = true)
    (hShape :
      Shape (pointed [lead] places ++ 'e' :: '+' :: size ++ rest)
        whole after exponent) :
    ∀ c ∈ rest, c.isDigit = true := by
  have hWhole : ∀ c ∈ [lead], c.isDigit = true := by
    simpa using hLead
  have hExponent := hShape.dropWhile_eq_exponent
  rw [List.append_assoc] at hExponent
  have hSplit :
      (pointed [lead] places ++
          ('e' :: '+' :: size ++ rest)).dropWhile (· != 'e') =
        'e' :: '+' :: size ++ rest :=
    (span_exponent hWhole hPlaces (.inr rfl)).2
  rw [hSplit] at hExponent
  rcases hShape.exponent_cases with hNone | hSome
  · rw [← hExponent] at hNone
    cases hNone
  · rcases hSome with ⟨sign, more, hText, hDigits, _⟩
    rw [← hExponent] at hText
    injection hText with _ hText
    injection hText with _ hText
    intro c hMember
    apply hDigits
    rw [← hText]
    exact List.mem_append_right _ hMember

/- Behind a text that grows there is no sign. -/
theorem Grows.not_shape_minus
    (hGrows : Grows cs)
    (rest : List Char) :
    ¬ Shape (cs ++ '-' :: rest) whole after exponent := by
  cases hGrows with
  | digits hDigits _ => exact not_shape_digits_minus hDigits rest
  | exponent hLead hAfter _ _ _ =>
      intro hShape
      have hMinus := isDigit_of_shape_exponent hLead hAfter
        hShape '-' List.mem_cons_self
      exact absurd hMinus (by decide)

/-
  Behind a text that grows there is no text with an exponent:
  only one digit stands in front of the point, and only one
  exponent behind it.
-/
theorem Grows.not_shape_exponent
    {lead : Char}
    {places size : List Char}
    (hGrows : Grows cs)
    (hLead : lead.isDigit = true)
    (rest : List Char) :
    ¬ Shape
      (cs ++ (pointed [lead] places ++ 'e' :: '+' :: size) ++
        rest) whole after exponent := by
  intro hShape
  have hMark :
      'e' ∈ pointed [lead] places ++ 'e' :: '+' :: size := by
    simp
  cases hGrows with
  | exponent hFirst hAfter _ _ _ =>
      rw [List.append_assoc] at hShape
      have hDigit := isDigit_of_shape_exponent hFirst hAfter
        hShape 'e' (List.mem_append_left _ hMark)
      exact absurd hDigit (by decide)
  | digits hDigits hOne =>
      rcases hShape.exponent_cases with hNone | hSome
      · -- Without an exponent there is no `e`.
        have hNotE := ne_e_of_mem_pointed hShape.digits_whole
          hShape.digits_after
        have hText := hShape.text
        rw [hNone, List.append_nil] at hText
        have hSame := hNotE 'e' (by
          rw [← hText]
          exact List.mem_append_left _
            (List.mem_append_right _ hMark))
        exact absurd hSame (by decide)
      · rcases hSome with ⟨_, _, _, _, hLength⟩
        have hFirst := ne_nil_of_decimalValue hDigits hOne
        have hStart :
            ∃ more, pointed [lead] places = lead :: more := by
          unfold pointed
          split
          · exact ⟨[], rfl⟩
          · exact ⟨'.' :: places, rfl⟩
        rcases hStart with ⟨more, hStart⟩
        have hWhole := hShape.span_whole.1
        rw [hStart, List.append_assoc, List.cons_append,
          List.cons_append,
          List.takeWhile_append_of_pos hDigits,
          List.takeWhile_cons_of_pos hLead] at hWhole
        rw [← hWhole, List.length_append, List.length_cons]
          at hLength
        have hCount := List.length_pos_iff.mpr hFirst
        omega

/- Behind zero there is no text of an integer. -/
theorem barren_zero
    (hFinite : x.IsFinite) :
    Barren ('0' :: x.text.toList) := by
  have hZero : Char.isDigit '0' = true := by decide
  rw [toList_text hFinite]
  rcases exists_shape x with ⟨_, _, _, hShape⟩
  rcases hShape.eq_cons with ⟨c, rest, hStart, hDigit⟩
  rw [hStart, ← signed_false ('0' :: _)]
  apply barren_signed hZero
  intro rest' whole after exponent
  cases x.negative && x.significand != 0 with
  | true =>
      rw [signed_true]
      have hMinus :
          ¬ Shape (['0'] ++ '-' :: (c :: rest ++ rest')) whole
            after exponent :=
        not_shape_digits_minus isDigit_of_mem_zero _
      exact hMinus
  | false =>
      rw [signed_false]
      exact not_shape_zero_digit hDigit (rest ++ rest')

/-
  The text of an integer: digits that are near the integer,
  a sign and more, or an exponent.
-/
theorem IsInteger.text_cases
    (hInteger : x.IsInteger) :
    ((∀ c ∈ x.text.toList, c.isDigit = true) ∧
        x.text.toList ≠ [] ∧
        x.magnitude ≤
          6 / 5 * Nat.ofDigitChars 10 x.text.toList 0) ∨
      (∃ back, x.text.toList = '-' :: back) ∨
      (∃ lead places size, lead.isDigit = true ∧
        x.text.toList =
          pointed [lead] places ++ 'e' :: '+' :: size) := by
  by_cases hSig : x.significand = 0
  · have hZero : x.magnitude = 0 := by
      unfold magnitude
      rw [hSig, Nat.cast_zero, zero_mul]
    rw [toList_text_of_zero hInteger.1 hSig]
    refine .inl
      ⟨isDigit_of_mem_zero, List.cons_ne_nil _ _, ?_⟩
    rw [hZero]
    positivity
  · have hSign :
        (x.negative && x.significand != 0) = x.negative := by
      simp [hSig]
    rw [toList_text hInteger.1, hSign]
    cases x.negative with
    | true =>
        rw [signed_true]
        exact .inr (.inl ⟨x.magnitudeText, rfl⟩)
    | false =>
        rw [signed_false]
        have hHolds := holds_magnitudeText x
        rcases (hInteger.grows hSig).cases with
          ⟨hDigits, hOne⟩ | ⟨lead, places, size, hLead, hText⟩
        · refine .inl ⟨hDigits, ?_, ?_⟩
          · exact ne_nil_of_decimalValue hDigits hOne
          · have hNear := hHolds.magnitude_le le_rfl hOne
            rw [decimalValue_digits hDigits] at hNear
            exact hNear
        · exact .inr (.inr ⟨lead, places, size, hLead, hText⟩)

end Number

end TemplateJsx
