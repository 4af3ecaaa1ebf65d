import TemplateJsx.Proofs.Interpolation.Addition

/-
  Numbers as texts. A number that is shown as a text has the
  fewest digits that read back to it, with an exponent only
  if it is very large or very small. The text denotes a
  decimal that reads back to the number, and the decimal of
  an integer has no places behind the point.

  Key definitions include:
    * `Number.text`
    * `Number.IsInteger`
    * `Number.decimalValue`
    * `Number.Shape`

  Main declarations:
    * `Number.exists_shape`
    * `Number.holds_magnitudeText`
    * `Number.IsInteger.shortest_power_nonneg`
-/

------------------------------------------------------------
-- Texts of Numbers
------------------------------------------------------------

namespace TemplateJsx

namespace Number

/- An exponent with its sign. -/
def exponentText (exponent : Int) : List Char :=
  'e' :: (if exponent < 0 then '-' else '+') ::
    Nat.toDigits 10 exponent.natAbs

/-
  The digits of an integer and a power of ten, with a point
  behind the first digit and an exponent.
-/
def scientific
    (n : Nat)
    (power : Int) : List Char :=
  let digits := Nat.toDigits 10 n
  pointed (digits.take 1) (trimZeros (digits.drop 1)) ++
    exponentText (digits.length - 1 + power)

/-
  The text of a magnitude. There is no exponent from a
  millionth on, up to 21 digits in front of the point.
-/
def magnitudeText (x : Number) : List Char :=
  if x.significand = 0 then
    ['0']
  else
    let decimal := shortest x
    let place : Int :=
      (Nat.toDigits 10 decimal.1).length + decimal.2
    if -6 < place ∧ place ≤ 21 then
      positional decimal.1 decimal.2
    else
      scientific decimal.1 decimal.2

/- The text that a number becomes next to a text. -/
def text (x : Number) : String :=
  if x.IsNaN then
    "NaN"
  else if x.IsFinite then
    String.ofList
      (if x.negative ∧ x.significand ≠ 0 then
        '-' :: x.magnitudeText
      else
        x.magnitudeText)
  else if x.negative then
    "-Infinity"
  else
    "Infinity"

/- A finite number without places behind the point. -/
def IsInteger (x : Number) : Prop :=
  x.IsFinite ∧ Nat.pow 2 (-x.scale).toNat ∣ x.significand

instance (x : Number) : Decidable x.IsInteger := by
  unfold IsInteger
  infer_instance

------------------------------------------------------------
-- The Decimal of a Text
------------------------------------------------------------

/- The factor that an exponent stands for. -/
def exponentFactor : List Char → ℚ
  | 'e' :: '+' :: digits => 10 ^ Nat.ofDigitChars 10 digits 0
  | 'e' :: '-' :: digits =>
      (10 ^ Nat.ofDigitChars 10 digits 0)⁻¹
  | _ => 1

/- The decimal that a text without a sign denotes. -/
def decimalValue (cs : List Char) : ℚ :=
  let mantissa := cs.takeWhile (· != 'e')
  pointedValue (mantissa.takeWhile Char.isDigit)
      ((mantissa.dropWhile Char.isDigit).drop 1) *
    exponentFactor (cs.dropWhile (· != 'e'))

/-
  The shape of a text without a sign: digits with a point
  among them or with none, and perhaps an exponent. Before
  an exponent there is one digit in front of the point, and
  otherwise no zero in front of other digits.
-/
structure Shape
    (cs whole after exponent : List Char) : Prop where
  text : cs = pointed whole after ++ exponent
  some_whole : whole ≠ []
  digits_whole : ∀ c ∈ whole, c.isDigit = true
  digits_after : ∀ c ∈ after, c.isDigit = true
  exponent_cases : exponent = [] ∨
    ∃ sign digits, exponent = 'e' :: sign :: digits ∧
      (∀ c ∈ digits, c.isDigit = true) ∧ whole.length = 1
  leading : whole.head? = some '0' → whole = ['0']

variable {cs whole after exponent : List Char}

/- No digit and no point starts an exponent. -/
theorem ne_e_of_mem_pointed
    (hWhole : ∀ c ∈ whole, c.isDigit = true)
    (hAfter : ∀ c ∈ after, c.isDigit = true) :
    ∀ c ∈ pointed whole after, (c != 'e') = true := by
  have hDigit {c : Char} (h : c.isDigit = true) :
      (c != 'e') = true := by
    rw [bne_iff_ne]
    exact ne_of_isDigit h rfl
  intro c hMember
  unfold pointed at hMember
  split at hMember
  · exact hDigit (hWhole c hMember)
  · rcases List.mem_append.mp hMember with hFront | hBack
    · exact hDigit (hWhole c hFront)
    · rcases List.mem_cons.mp hBack with rfl | hBack
      · rfl
      · exact hDigit (hAfter c hBack)

/- The digits behind the point are what follows it. -/
theorem drop_dropWhile_pointed
    (hWhole : ∀ c ∈ whole, c.isDigit = true) :
    ((pointed whole after).dropWhile Char.isDigit).drop 1 =
      after := by
  unfold pointed
  split
  · rename_i hNone
    rw [← List.append_nil whole,
      List.dropWhile_append_of_pos hWhole, hNone]
    rfl
  · rw [List.dropWhile_append_of_pos hWhole]
    rfl

/- An exponent starts at the first `e`. -/
theorem span_exponent
    (hWhole : ∀ c ∈ whole, c.isDigit = true)
    (hAfter : ∀ c ∈ after, c.isDigit = true)
    (hExponent : exponent = [] ∨ exponent.head? = some 'e') :
    (pointed whole after ++ exponent).takeWhile (· != 'e') =
        pointed whole after ∧
      (pointed whole after ++ exponent).dropWhile (· != 'e') =
        exponent := by
  have hMantissa := ne_e_of_mem_pointed hWhole hAfter
  rw [List.takeWhile_append_of_pos hMantissa,
    List.dropWhile_append_of_pos hMantissa]
  cases exponent with
  | nil => simp
  | cons c rest =>
      have hMark : c = 'e' := by simpa using hExponent
      subst hMark
      simp

/- A text denotes its digits times the factor. -/
theorem decimalValue_pointed
    (hWhole : ∀ c ∈ whole, c.isDigit = true)
    (hAfter : ∀ c ∈ after, c.isDigit = true)
    (hExponent : exponent = [] ∨ exponent.head? = some 'e') :
    decimalValue (pointed whole after ++ exponent) =
      pointedValue whole after * exponentFactor exponent := by
  rcases span_exponent hWhole hAfter hExponent with
    ⟨hMantissa, hRest⟩
  unfold decimalValue
  dsimp only
  rw [hMantissa, hRest, takeWhile_pointed hWhole,
    drop_dropWhile_pointed hWhole]

/- Digits alone denote their number. -/
theorem decimalValue_digits
    (hDigits : ∀ c ∈ cs, c.isDigit = true) :
    decimalValue cs = Nat.ofDigitChars 10 cs 0 := by
  have hNone : ∀ c ∈ ([] : List Char), c.isDigit = true :=
    List.forall_mem_nil _
  have hText : cs = pointed cs [] ++ [] := by
    simp [pointed]
  rw [hText, decimalValue_pointed hDigits hNone (.inl rfl),
    ← hText]
  simp [pointedValue, exponentFactor, Nat.ofDigitChars_nil]

------------------------------------------------------------
-- Shapes
------------------------------------------------------------

namespace Shape

theorem head_exponent
    (hShape : Shape cs whole after exponent) :
    exponent = [] ∨ exponent.head? = some 'e' := by
  rcases hShape.exponent_cases with hNone | hSome
  · exact .inl hNone
  · rcases hSome with ⟨sign, digits, hText, _⟩
    rw [hText]
    exact .inr rfl

theorem dropWhile_eq_exponent
    (hShape : Shape cs whole after exponent) :
    cs.dropWhile (· != 'e') = exponent := by
  rw [hShape.text]
  exact (span_exponent hShape.digits_whole hShape.digits_after
    hShape.head_exponent).2

/- What follows the leading digits is no digit. -/
theorem span_whole
    (hShape : Shape cs whole after exponent) :
    cs.takeWhile Char.isDigit = whole ∧
      (cs.dropWhile Char.isDigit = [] ∨
        (cs.dropWhile Char.isDigit).head? = some '.' ∨
        (cs.dropWhile Char.isDigit).head? = some 'e') := by
  have hExponent := hShape.head_exponent
  rw [hShape.text]
  unfold pointed
  split
  · rw [List.takeWhile_append_of_pos hShape.digits_whole,
      List.dropWhile_append_of_pos hShape.digits_whole]
    cases exponent with
    | nil => simp
    | cons c rest =>
        have hMark : c = 'e' := by simpa using hExponent
        subst hMark
        simp [Char.isDigit]
  · rw [List.append_assoc,
      List.takeWhile_append_of_pos hShape.digits_whole,
      List.dropWhile_append_of_pos hShape.digits_whole]
    simp [Char.isDigit]

end Shape

/- A number of so many digits is below a power of ten. -/
theorem ofDigitChars_lt
    (hDigits : ∀ c ∈ cs, c.isDigit = true) :
    Nat.ofDigitChars 10 cs 0 < 10 ^ cs.length := by
  induction cs with
  | nil => decide
  | cons c rest ih =>
      have hRest := ih fun d hMember =>
        hDigits d (List.mem_cons_of_mem _ hMember)
      have hRange := Char.isDigit_iff_toNat.mp
        (hDigits c List.mem_cons_self)
      have hZero : '0'.toNat = 48 := rfl
      have hNine : '9'.toNat = 57 := rfl
      have hSplit := ofDigitChars_append_eq [c] rest
      have hFirst :
          Nat.ofDigitChars 10 [c] 0 = c.toNat - '0'.toNat := by
        simp [Nat.ofDigitChars_cons, Nat.ofDigitChars_nil]
      rw [List.singleton_append, hFirst] at hSplit
      rw [hSplit, List.length_cons, pow_succ]
      have hDigit : c.toNat - '0'.toNat ≤ 9 := by omega
      nlinarith

/- The digits of a positive number do not start with zero. -/
theorem head_toDigits_ne
    {n : Nat}
    (hPos : 0 < n) :
    (Nat.toDigits 10 n).head? ≠ some '0' := by
  intro hZero
  have hLower := ten_pow_length_le hPos
  cases hDigits : Nat.toDigits 10 n with
  | nil =>
      rw [hDigits] at hZero
      cases hZero
  | cons c rest =>
      rw [hDigits] at hZero hLower
      cases hZero
      have hRest : ∀ c ∈ rest, c.isDigit = true := by
        intro c hMember
        apply Nat.isDigit_of_mem_toDigits (b := 10) (n := n)
          (by decide) (by decide)
        rw [hDigits]
        exact List.mem_cons_of_mem _ hMember
      have hValue : Nat.ofDigitChars 10 ('0' :: rest) 0 = n := by
        rw [← hDigits, Nat.ofDigitChars_ten_toDigits]
      have hUpper := ofDigitChars_lt hRest
      rw [Nat.ofDigitChars_cons] at hValue
      simp at hValue hLower
      omega

/- The shortest decimal of a number is not zero. -/
theorem shortest_pos
    {x : Number}
    (hSig : x.significand ≠ 0) :
    0 < (shortest x).1 := by
  have hHolds := shortest_holds hSig
  by_contra hZero
  rw [Nat.eq_zero_of_not_pos hZero, Nat.cast_zero, zero_mul]
    at hHolds
  have hCode := hHolds.eq_of_holds holds_zero
  have hNone := codeSignificand_code x
  rw [hCode] at hNone
  exact hSig hNone.symm

/- A text starts with the digits in front of its point. -/
theorem head?_pointed
    (hSome : whole ≠ [])
    (after : List Char) :
    (pointed whole after).head? = whole.head? := by
  unfold pointed
  split
  · rfl
  · exact List.head?_append_of_ne_nil _ hSome

/- Only the zero in front of the point is a leading zero. -/
theorem positional_leading
    {n : Nat}
    {power : Int}
    (hPos : 0 < n)
    (hZero : (positional n power).head? = some '0') :
    ∃ after, positional n power = pointed ['0'] after := by
  have hHead := head_toDigits_ne hPos
  have hSome := Nat.toDigits_ne_nil (b := 10) (n := n)
  unfold positional at hZero ⊢
  dsimp only at hZero ⊢
  generalize Nat.toDigits 10 n = digits at *
  by_cases hPower : 0 ≤ power
  · rw [if_pos hPower, List.head?_append_of_ne_nil _ hSome]
      at hZero
    exact absurd hZero hHead
  · rw [if_neg hPower] at hZero ⊢
    generalize (-power).toNat = places at *
    by_cases hShort : digits.length ≤ places
    · generalize hPadded :
        List.replicate (places + 1 - digits.length) '0' ++
          digits = padded at *
      have hLength : padded.length = places + 1 := by
        rw [← hPadded, List.length_append,
          List.length_replicate]
        omega
      have hOne : padded.length - places = 1 := by omega
      rw [hOne] at hZero ⊢
      cases padded with
      | nil => cases hLength
      | cons c rest =>
          have hFirst : c = '0' := by
            have hText := hZero.symm.trans
              (head?_pointed (List.cons_ne_nil c []) _)
            exact (Option.some.inj hText).symm
          rw [hFirst]
          exact ⟨_, rfl⟩
    · have hNone : places + 1 - digits.length = 0 := by omega
      rw [hNone, List.replicate_zero, List.nil_append] at hZero
      have hFront :
          digits.take (digits.length - places) ≠ [] := by
        rw [Ne, List.take_eq_nil_iff]
        rintro (hNone | hNone)
        · omega
        · exact hSome hNone
      have hText := hZero.symm.trans (head?_pointed hFront _)
      rw [List.head?_take, if_neg (by omega)] at hText
      exact absurd hText.symm hHead

/- Zero is a digit. -/
theorem isDigit_of_mem_zero :
    ∀ c ∈ ['0'], c.isDigit = true :=
  List.forall_mem_singleton.mpr rfl

/- A positive decimal has a shape without an exponent. -/
theorem positional_shape
    {n : Nat}
    (hPos : 0 < n)
    (power : Int) :
    ∃ whole after,
      Shape (positional n power) whole after [] ∧
        pointedValue whole after = n * (10 : ℚ) ^ power := by
  rcases positional_denotes n power with
    ⟨whole, after, hDenotes⟩
  have hText : positional n power = pointed whole after :=
    hDenotes.text
  refine ⟨whole, after,
    ⟨?_, hDenotes.some_whole, hDenotes.digits_whole,
      hDenotes.digits_after, .inl rfl, ?_⟩,
    hDenotes.value⟩
  · rw [List.append_nil, hText]
  · intro hZero
    rw [← head?_pointed hDenotes.some_whole after, ← hText]
      at hZero
    rcases positional_leading hPos hZero with ⟨after', hForm⟩
    rw [hText] at hForm
    exact (pointed_injective hDenotes.digits_whole
      isDigit_of_mem_zero hForm).1

theorem exponentFactor_exponentText
    (exponent : Int) :
    exponentFactor (exponentText exponent) =
      10 ^ exponent := by
  unfold exponentText
  split
  · rename_i hNegative
    rw [exponentFactor, Nat.ofDigitChars_ten_toDigits,
      ← zpow_natCast, ← zpow_neg]
    congr 1
    omega
  · rw [exponentFactor, Nat.ofDigitChars_ten_toDigits,
      ← zpow_natCast]
    congr 1
    omega

/- A positive decimal has a shape with an exponent. -/
theorem scientific_shape
    {n : Nat}
    (hPos : 0 < n)
    (power : Int) :
    ∃ lead after,
      Shape (scientific n power) [lead] after
          (exponentText
            ((Nat.toDigits 10 n).length - 1 + power)) ∧
        pointedValue [lead] after *
            10 ^ ((Nat.toDigits 10 n).length - 1 + power) =
          n * (10 : ℚ) ^ power := by
  have hDigits : ∀ c ∈ Nat.toDigits 10 n, c.isDigit = true :=
    fun c hMember =>
      Nat.isDigit_of_mem_toDigits (by decide) (by decide) hMember
  have hLength : 0 < (Nat.toDigits 10 n).length :=
    Nat.length_toDigits_pos
  have hDenotes := denotes_divided hDigits
    (Nat.sub_lt hLength Nat.one_pos)
  have hOne :
      (Nat.toDigits 10 n).length -
        ((Nat.toDigits 10 n).length - 1) = 1 := by
    omega
  rw [hOne, Nat.ofDigitChars_ten_toDigits] at hDenotes
  have hHead := head_toDigits_ne hPos
  unfold scientific
  dsimp only
  generalize Nat.toDigits 10 n = digits at *
  cases digits with
  | nil => cases hLength
  | cons lead rest =>
      refine ⟨lead, trimZeros rest,
        ⟨rfl, List.cons_ne_nil _ _, hDenotes.digits_whole,
          hDenotes.digits_after, .inr ⟨_, _, rfl, ?_, rfl⟩, ?_⟩,
        ?_⟩
      · intro c hMember
        exact Nat.isDigit_of_mem_toDigits (by decide)
          (by decide) hMember
      · intro hZero
        exact absurd hZero hHead
      · have hValue : pointedValue [lead] (trimZeros rest) =
            n / 10 ^ ((lead :: rest).length - 1) :=
          hDenotes.value
        rw [hValue, zpow_add₀ (by norm_num), ← mul_assoc]
        congr 1
        rw [List.length_cons, Nat.add_sub_cancel, Nat.cast_add,
          Nat.cast_one, add_sub_cancel_right, zpow_natCast,
          div_mul_cancel₀ _ (by positivity)]

variable {x : Number}

/-
  The text of a magnitude has a shape, and it denotes the
  shortest decimal.
-/
theorem magnitudeText_of_ne
    (hSig : x.significand ≠ 0) :
    (∃ whole after exponent,
        Shape x.magnitudeText whole after exponent) ∧
      decimalValue x.magnitudeText =
        (shortest x).1 * (10 : ℚ) ^ (shortest x).2 := by
  have hPos := shortest_pos hSig
  unfold magnitudeText
  rw [if_neg hSig]
  dsimp only
  generalize (shortest x).1 = n at *
  generalize (shortest x).2 = power at *
  split
  · rcases positional_shape hPos power with
      ⟨whole, after, hShape, hValue⟩
    refine ⟨⟨whole, after, [], hShape⟩, ?_⟩
    rw [hShape.text, decimalValue_pointed hShape.digits_whole
      hShape.digits_after hShape.head_exponent, hValue,
      exponentFactor, mul_one]
    · simp
    · simp
  · rcases scientific_shape hPos power with
      ⟨lead, after, hShape, hValue⟩
    refine ⟨⟨[lead], after, _, hShape⟩, ?_⟩
    rw [hShape.text, decimalValue_pointed hShape.digits_whole
      hShape.digits_after hShape.head_exponent,
      exponentFactor_exponentText, hValue]

/- Zero is shown as one digit. -/
theorem magnitudeText_of_zero
    (hSig : x.significand = 0) :
    x.magnitudeText = ['0'] := by
  unfold magnitudeText
  rw [if_pos hSig]

/- The text of every magnitude has a shape. -/
theorem exists_shape
    (x : Number) :
    ∃ whole after exponent,
      Shape x.magnitudeText whole after exponent := by
  by_cases hSig : x.significand = 0
  · rw [magnitudeText_of_zero hSig]
    exact ⟨['0'], [], [], rfl, List.cons_ne_nil _ _,
      isDigit_of_mem_zero, List.forall_mem_nil _, .inl rfl,
      fun _ => rfl⟩
  · exact (magnitudeText_of_ne hSig).1

/- The text of a magnitude denotes what reads back to it. -/
theorem holds_magnitudeText
    (x : Number) :
    Holds x.code (decimalValue x.magnitudeText) := by
  by_cases hSig : x.significand = 0
  · have hZero : decimalValue ['0'] = 0 := by
      rw [decimalValue_digits isDigit_of_mem_zero]
      simp [Nat.ofDigitChars_cons, Nat.ofDigitChars_nil]
    rw [magnitudeText_of_zero hSig, hZero, code_eq_zero hSig]
    exact holds_zero
  · rw [(magnitudeText_of_ne hSig).2]
    exact shortest_holds hSig

------------------------------------------------------------
-- Integers
------------------------------------------------------------

/- A decimal that equals a number reads back to it. -/
theorem readsBack_of_exact
    {power : Int}
    {n : Nat}
    (hSig : x.significand ≠ 0)
    (hExact :
      n * (Grid.of x.scale power).decimal =
        4 * x.significand * (Grid.of x.scale power).binary) :
    ReadsBack x power n := by
  have hBinary : 0 < (Grid.of x.scale power).binary := by
    unfold Grid.of
    simp only [Nat.pow_eq]
    positivity
  have hSlack : slack x ≤ 1 := by
    unfold slack
    split <;> omega
  have hQuarters : lowerQuarter x + 1 ≤ 4 * x.significand := by
    unfold lowerQuarter
    split <;> omega
  have hLow :=
    Nat.mul_le_mul_right (Grid.of x.scale power).binary hQuarters
  unfold ReadsBack
  rw [hExact]
  rw [Nat.add_mul, Nat.one_mul] at hLow
  rw [Nat.add_mul]
  omega

/- An integer is among the decimals without places. -/
theorem IsInteger.neighbour?_isSome
    (hInteger : x.IsInteger)
    (hSig : x.significand ≠ 0) :
    (neighbour? x 0).isSome := by
  apply Number.neighbour?_isSome
  apply readsBack_of_exact hSig
  apply Nat.div_mul_cancel
  have hDecimal :
      (Grid.of x.scale 0).decimal ∣
        4 * 2 ^ (-x.scale).toNat := by
    have hPlaces : (2 - x.scale).toNat ≤ 2 + (-x.scale).toNat := by
      omega
    have hPower := Nat.pow_dvd_pow 2 hPlaces
    rw [Nat.pow_add] at hPower
    unfold Grid.of
    simpa [Nat.pow_eq] using hPower
  have hSignificand : 2 ^ (-x.scale).toNat ∣ x.significand :=
    hInteger.2
  exact Dvd.dvd.mul_right
    (hDecimal.trans (Nat.mul_dvd_mul_left 4 hSignificand)) _

/- An integer has its leading digit in front of the point. -/
theorem IsInteger.leadingPower_nonneg
    (hInteger : x.IsInteger)
    (hSig : x.significand ≠ 0) :
    0 ≤ leadingPower x.significand x.scale := by
  have hSignificand : 2 ^ (-x.scale).toNat ≤ x.significand :=
    Nat.le_of_dvd (Nat.pos_of_ne_zero hSig) hInteger.2
  have hWithin (places : Nat) :
      0 ≤ leadingPowerWithin places x.significand x.scale := by
    have hShifted :
        10 ^ places ≤
          x.significand * 2 ^ x.scale.toNat * 10 ^ places /
            2 ^ (-x.scale).toNat := by
      rw [Nat.le_div_iff_mul_le (by positivity), Nat.mul_comm]
      apply Nat.mul_le_mul_right
      exact hSignificand.trans
        (Nat.le_mul_of_pos_right _ (by positivity))
    unfold leadingPowerWithin
    simp only [Nat.pow_eq]
    generalize x.significand * 2 ^ x.scale.toNat * 10 ^ places /
      2 ^ (-x.scale).toNat = shifted at *
    have hLength : places < (Nat.toDigits 10 shifted).length := by
      by_contra hShort
      rcases Nat.eq_zero_or_pos places with rfl | hSome
      · exact hShort Nat.length_toDigits_pos
      · have hLess := (Nat.length_toDigits_le_iff (by decide)
          hSome).mp (Nat.le_of_not_lt hShort)
        omega
    omega
  exact hWithin 400

/-
  The search for a neighbour goes down from the leading
  digit, and does not pass a power of ten with a neighbour.
-/
theorem power_nonneg_of_search
    {leading : Int}
    (other : Nat × Int)
    (hLeading : 0 ≤ leading)
    (hHit : (neighbour? x 0).isSome)
    (hLast : (neighbour? x (leading - 17)).isSome) :
    0 ≤ (((List.range 18).findSome? fun (more : Nat) =>
        (neighbour? x (leading - more)).map
          (·, leading - (more : Int))).getD other).2 := by
  rcases hFound :
      (List.range 18).findSome? fun (more : Nat) =>
        (neighbour? x (leading - more)).map
          (·, leading - (more : Int)) with _ | result
  · rw [List.findSome?_eq_none_iff] at hFound
    have hNone : neighbour? x (leading - 17) = none :=
      Option.map_eq_none_iff.mp (hFound 17 (by decide))
    rw [hNone] at hLast
    cases hLast
  · rcases List.findSome?_eq_some_iff.mp hFound with
      ⟨before, more, later, hRange, hMore, hBefore⟩
    rcases Option.map_eq_some_iff.mp hMore with
      ⟨n, _, rfl⟩
    rw [Option.getD_some]
    by_contra hNegative
    -- Then the search has passed the power zero.
    have hPassed : leading.toNat ∈ before := by
      have hBound : more ∈ List.range 18 := by
        rw [hRange]
        simp
      have hMember : leading.toNat ∈ List.range 18 := by
        rw [List.mem_range] at hBound ⊢
        dsimp only at hNegative
        omega
      have hSorted : (List.range 18).Pairwise (· < ·) :=
        List.pairwise_lt_range
      rw [hRange] at hMember hSorted
      rcases List.mem_append.mp hMember with hDone | hRest
      · exact hDone
      · have hLess : more ≤ leading.toNat := by
          rcases List.mem_cons.mp hRest with hSame | hLater
          · exact hSame.ge
          · exact ((List.pairwise_cons.mp
              (List.pairwise_append.mp hSorted).2.1).1 _
              hLater).le
        dsimp only at hNegative
        omega
    have hNone := Option.map_eq_none_iff.mp
      (hBefore _ hPassed)
    rw [Int.toNat_of_nonneg hLeading, sub_self] at hNone
    rw [hNone] at hHit
    cases hHit

/- The shortest decimal of an integer has no places. -/
theorem IsInteger.shortest_power_nonneg
    (hInteger : x.IsInteger)
    (hSig : x.significand ≠ 0) :
    0 ≤ (shortest x).2 :=
  power_nonneg_of_search (x.significand, x.scale)
    (hInteger.leadingPower_nonneg hSig)
    (hInteger.neighbour?_isSome hSig)
    (Number.neighbour?_isSome
      (readsBack_below hSig (decimal_le_binary hSig)))

end Number

end TemplateJsx
