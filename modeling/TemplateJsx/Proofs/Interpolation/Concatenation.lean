import TemplateJsx.Proofs.Interpolation.TextGrowth
import TemplateJsx.Proofs.Nesting
import TemplateJsx.Proofs.Rendering.Value
import TemplateJsx.Proofs.Success

/-
  What an interpolated text of literals evaluates to. The
  sum of its parts is their concatenation, unless the first
  two are numbers: these are added before a text comes in,
  and what they add up to is never shown as their texts in a
  row. A sum of numbers trails behind their texts, and with
  every further number it falls back more.

  Key definitions include:
    * `Number.Trails`
    * `Jsx.Operand`
    * `Jsx.Expr.operand?`
    * `Template.TextPart.IsLiteral`
    * `Template.TextPart.Fits`

  Main declarations:
    * `Number.Trails.add`
    * `Number.Trails.text_ne`
    * `Resolve.concat_eq_ok_iff`
    * `Resolve.concat_literals_joined`
-/

------------------------------------------------------------
-- Sums behind Texts
------------------------------------------------------------

namespace TemplateJsx

namespace Number

/-
  A sum that trails behind the texts of what is added up: no
  number has a text that starts with them, or the sum is at
  most a share of what they denote. A text and its number
  differ by less than a fifth, so that with a share of four
  fifths the sum has another text.
-/
def Trails
    (share : ℚ)
    (total : Number)
    (cs : List Char) : Prop :=
  Barren cs ∨
    ∃ negative front,
      cs = signed negative front ∧
        Grows front ∧
        (total.IsFinite →
          total.magnitude ≤ share * decimalValue front)

variable {total x y : Number}
variable {negative : Bool}
variable {cs front digits : List Char}

theorem Trails.mono
    (hTrails : Trails (4 / 5) total cs) :
    Trails (6 / 5) total cs := by
  rcases hTrails with hBarren | hSome
  · exact .inl hBarren
  · rcases hSome with ⟨negative, front, hText, hGrows, hShare⟩
    refine .inr ⟨negative, front, hText, hGrows, ?_⟩
    intro hFinite
    have hValue := hGrows.one_le
    linarith [hShare hFinite]

/- An integer other than zero is near what its text denotes. -/
theorem trails_self
    (hInteger : x.IsInteger)
    (hSig : x.significand ≠ 0) :
    Trails (6 / 5) x x.text.toList := by
  have hGrows := hInteger.grows hSig
  refine .inr ⟨_, _, toList_text hInteger.1, hGrows, ?_⟩
  intro _
  exact (holds_magnitudeText x).magnitude_le le_rfl
    hGrows.one_le

/- Digits that follow leave the sum behind. -/
theorem trails_digits
    (hGrows : Grows front)
    (hShare : total.IsFinite →
      total.magnitude ≤ 6 / 5 * decimalValue front)
    (hFinite : x.IsFinite)
    (hSome : digits ≠ [])
    (hDigits : ∀ c ∈ digits, c.isDigit = true)
    (hNear :
      x.magnitude ≤ 6 / 5 * Nat.ofDigitChars 10 digits 0) :
    Trails (4 / 5) (total.add x)
      (signed negative front ++ digits) := by
  rw [signed_append]
  refine .inr
    ⟨negative, front ++ digits, rfl,
      hGrows.append_digits hSome hDigits, ?_⟩
  intro hSum
  have hTotal : total.IsFinite := by
    by_contra hInfinite
    exact not_isFinite_add hInfinite hFinite hSum
  have hValue := hGrows.one_le
  have hCount : (0 : ℚ) ≤ Nat.ofDigitChars 10 digits 0 :=
    Nat.cast_nonneg _
  have hMore := hGrows.le_decimalValue_append hSome hDigits
  -- The texts and the sum are each rounded once.
  have hRounded :
      (total.add x).magnitude ≤
        6 / 5 *
          (6 / 5 *
            (decimalValue front +
              Nat.ofDigitChars 10 digits 0)) := by
    apply magnitude_add_le hTotal hFinite hSum
    · linarith [hShare hTotal]
    · linarith
  linarith

/- An integer that is added falls behind its text. -/
theorem Trails.add
    (hTrails : Trails (6 / 5) total cs)
    (hInteger : x.IsInteger) :
    Trails (4 / 5) (total.add x) (cs ++ x.text.toList) := by
  rcases hTrails with hBarren | hSome
  · exact .inl (hBarren.append _)
  · rcases hSome with ⟨negative, front, rfl, hGrows, hShare⟩
    rcases hInteger.text_cases with
      ⟨hDigits, hNonempty, hNear⟩ | ⟨back, hText⟩ |
        ⟨lead, places, size, hLead, hText⟩
    · exact trails_digits hGrows hShare hInteger.1 hNonempty
        hDigits hNear
    · rw [hText]
      refine .inl (hGrows.barren negative ?_)
      intro rest whole after exponent
      rw [List.append_assoc]
      exact hGrows.not_shape_minus (back ++ rest)
    · rw [hText]
      refine .inl (hGrows.barren negative ?_)
      intro rest whole after exponent
      exact hGrows.not_shape_exponent hLead rest

/- The sum of two integers trails behind their texts. -/
theorem trails_two
    (hFirst : x.IsInteger)
    (hSecond : y.IsInteger) :
    Trails (4 / 5) (x.add y)
      (x.text.toList ++ y.text.toList) := by
  by_cases hSig : x.significand = 0
  · rw [toList_text_of_zero hFirst.1 hSig]
    exact .inl (barren_zero hSecond.1)
  · exact (trails_self hFirst hSig).add hSecond

/- A sum that trails is not shown as the texts. -/
theorem Trails.text_ne
    (hTrails : Trails (4 / 5) total cs) :
    total.text.toList ≠ cs := by
  intro hText
  rcases hTrails with hBarren | hSome
  · apply hBarren total []
    rw [hText, List.append_nil]
  · rcases hSome with ⟨negative, front, hSigned, hGrows, hShare⟩
    rw [hSigned] at hText
    rcases hGrows.eq_cons with ⟨c, rest, hStart, hDigit⟩
    rw [hStart] at hText
    rcases magnitudeText_eq_of_text hDigit hText with
      ⟨hFinite, hMagnitude⟩
    have hHolds := holds_magnitudeText total
    rw [hMagnitude, ← hStart] at hHolds
    have hValue := hGrows.one_le
    have hUpper := hHolds.le_magnitude hValue
    linarith [hShare hFinite]

end Number

------------------------------------------------------------
-- Texts and Numbers
------------------------------------------------------------

namespace Jsx

/- What is added up: a text or a number. -/
inductive Operand where
  | text (chars : String)
  | number (value : Number)
  deriving DecidableEq, Repr

namespace Operand

/- An operand as a text. -/
def shown : Operand → String
  | .text chars => chars
  | .number value => value.text

/-
  The sum of operands. Only two numbers are added; otherwise
  the texts are put in a row.
-/
def add : Operand → Operand → Operand
  | .number x, .number y => .number (x.add y)
  | first, second => .text (first.shown ++ second.shown)

/- An operand that is a number. -/
def IsNumber : Operand → Prop
  | .text _ => False
  | .number _ => True

/- A text, or a number without places behind the point. -/
def IsWhole : Operand → Prop
  | .text _ => True
  | .number value => value.IsInteger

end Operand

/- What a sum of literals evaluates to. -/
def Expr.operand? : Expr → Option Operand
  | .string chars => some (.text chars)
  | .number value => some (.number value)
  | .binary .add left right => do
      let first ← left.operand?
      let second ← right.operand?
      return first.add second
  | _ => none

/- The literal of an operand. -/
def Operand.literal : Operand → Expr
  | .text chars => .string chars
  | .number value => .number value

/- A sum with one more literal. -/
def addLiteral
    (sum : Expr)
    (next : Operand) : Expr :=
  .binary .add sum next.literal

theorem Operand.operand?_literal
    (operand : Operand) :
    operand.literal.operand? = some operand := by
  cases operand with
  | text chars => rfl
  | number value => rfl

/- A sum of literals evaluates to the sum of the operands. -/
theorem operand?_foldl_addLiteral
    {sum : Expr}
    {total : Operand}
    (hSum : sum.operand? = some total)
    (rest : List Operand) :
    (rest.foldl addLiteral sum).operand? =
      some (rest.foldl Operand.add total) := by
  induction rest generalizing sum total with
  | nil => exact hSum
  | cons next rest ih =>
      have hLonger :
          (addLiteral sum next).operand? =
            some (total.add next) := by
        rw [addLiteral, Expr.operand?, hSum,
          Operand.operand?_literal]
        rfl
      exact ih hLonger

/- The operands in a row, as one text. -/
def joined (operands : List Operand) : String :=
  String.join (operands.map Operand.shown)

theorem joined_cons
    (first : Operand)
    (rest : List Operand) :
    joined (first :: rest) = first.shown ++ joined rest := by
  unfold joined
  rw [List.map_cons, String.join_cons]

namespace Operand

variable {first second : Operand}
variable {rest : List Operand}

/- Only numbers have a number as their sum. -/
theorem add_of_not_isNumber
    (hText : ¬ (first.IsNumber ∧ second.IsNumber)) :
    first.add second = .text (first.shown ++ second.shown) := by
  cases first with
  | text chars => rfl
  | number x =>
      cases second with
      | text chars => rfl
      | number y => exact absurd ⟨trivial, trivial⟩ hText

/- From a text on, all texts are put in a row. -/
theorem foldl_add_text
    (chars : String)
    (rest : List Operand) :
    rest.foldl add (.text chars) =
      .text (chars ++ joined rest) := by
  induction rest generalizing chars with
  | nil => simp [joined]
  | cons next rest ih =>
      have hStep :
          (text chars).add next = .text (chars ++ next.shown) :=
        add_of_not_isNumber fun hBoth => hBoth.1
      rw [List.foldl_cons, hStep, ih, joined_cons,
        String.append_assoc]

/- A sum that trails stays behind all that follows. -/
theorem shown_foldl_add_ne
    {total : Number}
    {chars : String}
    (hTrails : total.Trails (4 / 5) chars.toList)
    (hWhole : ∀ operand ∈ rest, operand.IsWhole) :
    (rest.foldl add (.number total)).shown ≠
      chars ++ joined rest := by
  induction rest generalizing total chars with
  | nil =>
      intro hShown
      apply hTrails.text_ne
      have hText : total.text = chars ++ joined [] := hShown
      rw [hText]
      simp [joined]
  | cons next rest ih =>
      rw [List.foldl_cons, joined_cons]
      cases next with
      | text more =>
          -- A text ends the sum, which is shown from here on.
          have hStep :
              (number total).add (.text more) =
                .text (total.text ++ more) := rfl
          rw [hStep, foldl_add_text]
          intro hShown
          apply hTrails.text_ne
          have hLists := congrArg String.toList hShown
          simpa [shown] using hLists
      | number x =>
          have hStep :
              (number total).add (.number x) =
                .number (total.add x) := rfl
          have hInteger : x.IsInteger :=
            hWhole (.number x) List.mem_cons_self
          have hNext :
              (total.add x).Trails (4 / 5)
                (chars ++ x.text).toList := by
            rw [String.toList_append]
            exact hTrails.mono.add hInteger
          rw [hStep, ← String.append_assoc]
          exact ih hNext fun operand hMember =>
            hWhole operand (List.mem_cons_of_mem _ hMember)

end Operand

end Jsx

------------------------------------------------------------
-- Literal Parts
------------------------------------------------------------

/-
  Parts whose operands are written in the template: texts,
  and strings and integers in braces without positional
  arguments.
-/
inductive Template.TextPart.IsLiteral :
    Template.TextPart → Jsx.Operand → Prop
  | text (run : Template.TextRun) :
      IsLiteral (.text run) (.text run.chars)
  | string
      (value : String)
      (place span : Option Span)
      (named : Template.Hash)
      (trusting : Bool) :
      IsLiteral
        (.mustache ⟨⟨.string value place, [], named⟩, trusting, span⟩)
        (.text value)
  | number
      (value : Number)
      (hInteger : value.IsInteger)
      (place span : Option Span)
      (named : Template.Hash)
      (trusting : Bool) :
      IsLiteral
        (.mustache ⟨⟨.number value place, [], named⟩, trusting, span⟩)
        (.number value)

/- The levels of a part at a depth stay within the bound. -/
def Template.TextPart.Fits
    (config : Config)
    (depth : Nat)
    (part : Template.TextPart) : Prop :=
  ¬ (0 < config.maxDepth ∧
    config.maxDepth < ((depth + part.levels : Nat) : Int))

instance
    (config : Config)
    (depth : Nat)
    (part : Template.TextPart) :
    Decidable (part.Fits config depth) :=
  inferInstanceAs (Decidable (¬ _))

namespace Resolve

open Jsx (Operand joined)

variable {config : Config}
variable {depth : Nat}

/- The numbers among literal parts are integers. -/
theorem isWhole_of_mem_literals
    {parts : List Template.TextPart}
    {operands : List Operand}
    (hParts :
      List.Forall₂ Template.TextPart.IsLiteral parts operands) :
    ∀ operand ∈ operands, operand.IsWhole := by
  induction hParts with
  | nil => exact List.forall_mem_nil _
  | cons hPart _ ih =>
      refine List.forall_mem_cons.mpr ⟨?_, ih⟩
      cases hPart with
      | text run => trivial
      | string value place span named trusting => trivial
      | number value hInteger place span named trusting =>
          exact hInteger

/-
  A literal part is resolved to its operand, exactly if it
  fits.
-/
theorem partValue_eq_ok_iff
    {part : Template.TextPart}
    {operand : Operand}
    {e : Jsx.Expr}
    (hPart : part.IsLiteral operand) :
    partValue config depth part = .ok e ↔
      part.Fits config depth ∧ operand.literal = e := by
  have hOne :
      ¬ (0 < config.maxDepth ∧ config.maxDepth ≤ depth) ↔
        ¬ (0 < config.maxDepth ∧
          config.maxDepth < ((depth + 1 : Nat) : Int)) := by
    omega
  have hTwo :
      ¬ (0 < config.maxDepth ∧ config.maxDepth ≤ depth) ∧
          ¬ (0 < config.maxDepth ∧
            config.maxDepth ≤ ((depth + 1 : Nat) : Int)) ↔
        ¬ (0 < config.maxDepth ∧
          config.maxDepth < ((depth + 2 : Nat) : Int)) := by
    omega
  have hSame {x : Jsx.Expr} :
      (.ok x : Outcome Jsx.Expr) = .ok e ↔ x = e :=
    iff_of_eq (Except.ok.injEq x e)
  unfold partValue
  rw [enter_bind_eq_ok_iff]
  cases hPart with
  | text run => exact and_congr hOne hSame
  | string value place span named trusting =>
      change _ ∧ expression config (depth + 1) (.string value place) =
        .ok e ↔ _
      rw [expression, enter_bind_eq_ok_iff, ← and_assoc]
      exact and_congr hTwo hSame
  | number value hInteger place span named trusting =>
      change _ ∧ expression config (depth + 1) (.number value place) =
        .ok e ↔ _
      rw [expression, enter_bind_eq_ok_iff, ← and_assoc]
      exact and_congr hTwo hSame

/- What comes after a literal part goes on with its operand. -/
theorem partValue_bind_eq_ok_iff
    {part : Template.TextPart}
    {operand : Operand}
    {next : Jsx.Expr → Outcome Jsx.Expr}
    {e : Jsx.Expr}
    (hPart : part.IsLiteral operand) :
    partValue config depth part >>= next = .ok e ↔
      part.Fits config depth ∧ next operand.literal = .ok e := by
  simp only [bind_eq_ok_iff, partValue_eq_ok_iff hPart, and_assoc]
  constructor
  · rintro ⟨_, hFits, rfl, hNext⟩
    exact ⟨hFits, hNext⟩
  · rintro ⟨hFits, hNext⟩
    exact ⟨_, hFits, rfl, hNext⟩

/- Literal parts that follow are added one by one. -/
theorem sumFrom_eq_ok_iff
    {parts : List Template.TextPart}
    {operands : List Operand}
    {sum e : Jsx.Expr}
    (hParts :
      List.Forall₂ Template.TextPart.IsLiteral parts operands) :
    sumFrom config depth sum parts = .ok e ↔
      (∀ part ∈ parts, part.Fits config depth) ∧
        operands.foldl Jsx.addLiteral sum = e := by
  induction hParts generalizing sum with
  | nil =>
      rw [sumFrom, and_iff_right (List.forall_mem_nil _)]
      exact iff_of_eq (Except.ok.injEq sum e)
  | @cons part operand parts operands hPart hRest ih =>
      rw [sumFrom, partValue_bind_eq_ok_iff hPart, ih,
        List.forall_mem_cons, List.foldl_cons, and_assoc,
        Jsx.addLiteral]

/-
  An interpolated text of literals is resolved to their sum,
  exactly if all of them fit.
-/
theorem concat_eq_ok_iff
    {parts : List Template.TextPart}
    {first : Operand}
    {rest : List Operand}
    {e : Jsx.Expr}
    (hParts :
      List.Forall₂ Template.TextPart.IsLiteral parts
        (first :: rest)) :
    concat config depth parts = .ok e ↔
      (∀ part ∈ parts, part.Fits config depth) ∧
        rest.foldl Jsx.addLiteral first.literal = e := by
  cases hParts with
  | @cons part _ parts _ hPart hRest =>
      rw [concat, partValue_bind_eq_ok_iff hPart,
        sumFrom_eq_ok_iff hRest, List.forall_mem_cons, and_assoc]

------------------------------------------------------------
-- Concatenation
------------------------------------------------------------

/-
  An interpolated text of literals is accepted exactly if its
  parts fit. It then evaluates to its parts in a row, unless
  the first two are numbers: what it evaluates to is then
  never shown as the parts in a row.
-/
theorem concat_literals_joined
    (config : Config)
    (depth : Nat)
    (parts : List Template.TextPart)
    (first second : Operand)
    (rest : List Operand)
    (hParts :
      List.Forall₂ Template.TextPart.IsLiteral parts
        (first :: second :: rest)) :
    ((∃ e, concat config depth parts = .ok e) ↔
        ∀ part ∈ parts, part.Fits config depth) ∧
      ∀ e, concat config depth parts = .ok e →
        ∃ value, e.operand? = some value ∧
          (¬ (first.IsNumber ∧ second.IsNumber) →
            value = .text (joined (first :: second :: rest))) ∧
          (first.IsNumber ∧ second.IsNumber →
            value.shown ≠ joined (first :: second :: rest)) := by
  simp only [concat_eq_ok_iff hParts]
  refine ⟨by simp, ?_⟩
  rintro e ⟨_, rfl⟩
  refine ⟨_, Jsx.operand?_foldl_addLiteral
    first.operand?_literal (second :: rest), ?_, ?_⟩
  · intro hText
    rw [List.foldl_cons, Operand.add_of_not_isNumber hText,
      Operand.foldl_add_text, Jsx.joined_cons,
      Jsx.joined_cons, String.append_assoc]
  · rintro ⟨hFirst, hSecond⟩
    have hWhole := isWhole_of_mem_literals hParts
    cases first with
    | text chars => exact absurd hFirst id
    | number x =>
        cases second with
        | text chars => exact absurd hSecond id
        | number y =>
            have hStep :
                (Operand.number x).add (.number y) =
                  .number (x.add y) := rfl
            rcases List.forall_mem_cons.mp hWhole with
              ⟨hIntegerX, hOthers⟩
            rcases List.forall_mem_cons.mp hOthers with
              ⟨hIntegerY, hRest⟩
            have hTrails :
                (x.add y).Trails (4 / 5)
                  (x.text ++ y.text).toList := by
              rw [String.toList_append]
              exact Number.trails_two hIntegerX hIntegerY
            rw [List.foldl_cons, hStep, Jsx.joined_cons,
              Jsx.joined_cons, ← String.append_assoc]
            exact Operand.shown_foldl_add_ne hTrails hRest

/- A count in braces. -/
def countPart (n : Nat) : Template.TextPart :=
  .mustache
    ⟨⟨.number (.ofCount n) none, [], ⟨[], none⟩⟩, false, none⟩

/- A bound that leaves one level. -/
def lastLevel : Config :=
  { Config.default with maxDepth := 1 }

/-
  Behind a text two numbers are put in a row, even behind an
  empty one. In front of a text they are added. Texts fit
  where no braces do.
-/
theorem concat_literals_joined_counts :
    (∃ e,
        concat Config.default 0
            [.text ⟨"", none⟩, countPart 1, countPart 2] =
          .ok e ∧
        e.operand? = some (.text "12")) ∧
      (∃ e value,
        concat Config.default 0
            [countPart 1, countPart 2, .text ⟨"px", none⟩] =
          .ok e ∧
        e.operand? = some value ∧
        value.shown ≠ "12px") ∧
      (∃ e,
        concat lastLevel 0 [.text ⟨"a", none⟩, .text ⟨"b", none⟩] =
          .ok e ∧
        e.operand? = some (.text "ab")) ∧
      ¬ ∃ e,
        concat lastLevel 0 [.text ⟨"a", none⟩, countPart 1] =
          .ok e := by
  have hCount (n : Nat) (hInteger : (Number.ofCount n).IsInteger) :
      (countPart n).IsLiteral (.number (.ofCount n)) :=
    .number _ hInteger none none ⟨[], none⟩ false
  have hOne := hCount 1 (by decide +kernel)
  have hTwo := hCount 2 (by decide +kernel)
  refine ⟨?_, ?_, ?_, ?_⟩
  · rcases concat_literals_joined Config.default 0 _ _ _ _
        (.cons (.text ⟨"", none⟩) (.cons hOne (.cons hTwo .nil)))
      with ⟨hAccepted, hJoined⟩
    rcases hAccepted.mpr (by decide) with ⟨e, hResolved⟩
    rcases hJoined e hResolved with ⟨value, hValue, hRow, _⟩
    have hText :
        joined [.text "", .number (.ofCount 1),
          .number (.ofCount 2)] = "12" := by
      decide +kernel
    rw [hText] at hRow
    refine ⟨e, hResolved, ?_⟩
    rw [hValue, hRow (fun hBoth => hBoth.1)]
  · rcases concat_literals_joined Config.default 0 _ _ _ _
        (.cons hOne (.cons hTwo (.cons (.text ⟨"px", none⟩) .nil)))
      with ⟨hAccepted, hJoined⟩
    rcases hAccepted.mpr (by decide) with ⟨e, hResolved⟩
    rcases hJoined e hResolved with ⟨value, hValue, _, hAdded⟩
    have hText :
        joined [.number (.ofCount 1), .number (.ofCount 2),
          .text "px"] = "12px" := by
      decide +kernel
    rw [hText] at hAdded
    exact ⟨e, value, hResolved, hValue,
      hAdded ⟨trivial, trivial⟩⟩
  · rcases concat_literals_joined lastLevel 0 _ _ _ _
        (.cons (.text ⟨"a", none⟩) (.cons (.text ⟨"b", none⟩) .nil))
      with ⟨hAccepted, hJoined⟩
    rcases hAccepted.mpr (by decide) with ⟨e, hResolved⟩
    rcases hJoined e hResolved with ⟨value, hValue, hRow, _⟩
    refine ⟨e, hResolved, ?_⟩
    rw [hValue, hRow (fun hBoth => hBoth.1)]
    rfl
  · rw [(concat_literals_joined lastLevel 0 _ _ _ _
      (.cons (.text ⟨"a", none⟩) (.cons hOne .nil))).1]
    decide

/- One and two become three, not twelve. -/
theorem concat_adds_numbers :
    concat Config.default 0 [countPart 1, countPart 2] =
        .ok (.binary .add (.number (.ofCount 1))
          (.number (.ofCount 2))) ∧
      (Jsx.Expr.binary .add (.number (.ofCount 1))
          (.number (.ofCount 2))).operand? =
        some (.number (.ofCount 3)) ∧
      (Operand.number (.ofCount 3)).shown = "3" ∧
      joined [.number (.ofCount 1), .number (.ofCount 2)] =
        "12" := by
  refine ⟨rfl, ?_, ?_, ?_⟩
  · decide +kernel
  · decide +kernel
  · decide +kernel

end Resolve

end TemplateJsx
