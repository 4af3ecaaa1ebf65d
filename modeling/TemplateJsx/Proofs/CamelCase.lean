import Mathlib.Data.List.Chain
import TemplateJsx.Text.Casing

/-
  Camel case. A run of dashes is dropped if a small letter or
  a digit follows it, and is kept in full otherwise. What is
  kept can not be dropped by a second pass, and apart from
  the dashes nothing is lost: the other characters come out
  in order, each small letter after a dash as its capital.

  Key definitions include:
    * `Text.AbsorbsDashes`
    * `Text.EndsInDash`
    * `Text.IsCamel`
    * `Text.IsDashRun`
    * `Text.undashed`

  Main declarations:
    * `Text.exists_camelChars_append`
    * `Text.isCamel_camelChars`
    * `Text.camelChars_of_isCamel`
    * `Text.getElem?_undashed_camelChars`
    * `Text.camelCase_normalises`
-/

------------------------------------------------------------
-- Characters That Absorb Dashes
------------------------------------------------------------

namespace TemplateJsx

namespace Text

/- What holds of the first 128 code points. -/
theorem forall_ascii
    {P : Char → Prop}
    (hCodes : ∀ code < 128, P (Char.ofNat code))
    {c : Char}
    (hCode : c.toNat < 128) :
    P c := by
  rw [← Char.ofNat_toNat c]
  exact hCodes c.toNat hCode

/- The letters from `a` to `z`. -/
def IsSmallLetter (c : Char) : Prop :=
  'a' ≤ c ∧ c ≤ 'z'

instance (c : Char) : Decidable (IsSmallLetter c) := by
  unfold IsSmallLetter
  infer_instance

/- A small letter or a digit drops the dashes before it. -/
def AbsorbsDashes (c : Char) : Prop :=
  IsSmallLetter c ∨ ('0' ≤ c ∧ c ≤ '9')

instance (c : Char) : Decidable (AbsorbsDashes c) := by
  unfold AbsorbsDashes
  infer_instance

theorem isCamelInitial_iff
    (c : Char) :
    isCamelInitial c = true ↔ AbsorbsDashes c := by
  unfold isCamelInitial AbsorbsDashes IsSmallLetter
  delta Char.isLower Char.isDigit
  simp only [Bool.or_eq_true, Bool.and_eq_true,
    decide_eq_true_eq, ge_iff_le]
  rfl

theorem AbsorbsDashes.toNat_lt
    {c : Char}
    (hAbsorbs : AbsorbsDashes c) :
    c.toNat < 128 := by
  rcases hAbsorbs with hLetter | hDigit
  · exact Nat.lt_of_le_of_lt
      (UInt32.le_iff_toNat_le.mp hLetter.2) (by decide)
  · exact Nat.lt_of_le_of_lt
      (UInt32.le_iff_toNat_le.mp hDigit.2) (by decide)

theorem not_absorbsDashes_dash :
    ¬ AbsorbsDashes '-' := by
  decide

/- A capital is no dash. -/
theorem AbsorbsDashes.toUpper_ne
    {c : Char}
    (hAbsorbs : AbsorbsDashes c) :
    c.toUpper ≠ '-' :=
  forall_ascii
    (P := fun c => AbsorbsDashes c → c.toUpper ≠ '-')
    (by decide +kernel) hAbsorbs.toNat_lt hAbsorbs

/- Only small letters have a capital. -/
theorem toUpper_of_not_isSmallLetter
    {c : Char}
    (hOther : ¬ IsSmallLetter c) :
    c.toUpper = c :=
  dif_neg hOther

------------------------------------------------------------
-- One Character
------------------------------------------------------------

variable {c : Char}
variable {dashes : Nat}

theorem camelChars_dash
    (dashes : Nat)
    (rest : List Char) :
    camelChars dashes ('-' :: rest) =
      camelChars (dashes + 1) rest := by
  rw [camelChars, if_pos rfl]

/- Dashes are dropped and leave a capital behind. -/
theorem camelChars_absorbed
    (hAbsorbs : AbsorbsDashes c)
    (hSome : dashes ≠ 0)
    (rest : List Char) :
    camelChars dashes (c :: rest) =
      c.toUpper :: camelChars 0 rest := by
  have hDash : c ≠ '-' := by
    rintro rfl
    exact not_absorbsDashes_dash hAbsorbs
  rw [camelChars, if_neg hDash,
    if_pos ⟨hSome, (isCamelInitial_iff c).mpr hAbsorbs⟩]

/- Dashes are kept, if there are any. -/
theorem camelChars_kept
    (hDash : c ≠ '-')
    (hKept : ¬ (dashes ≠ 0 ∧ AbsorbsDashes c))
    (rest : List Char) :
    camelChars dashes (c :: rest) =
      List.replicate dashes '-' ++ c :: camelChars 0 rest := by
  rw [← isCamelInitial_iff] at hKept
  rw [camelChars, if_neg hDash, if_neg hKept]

/-
  Induction along camel case: a text ends, goes on with a
  dash, or goes on with another character, which drops the
  dashes before it or does not.
-/
theorem camel_induction
    {motive : Nat → List Char → Prop}
    (nil : ∀ dashes, motive dashes [])
    (dash : ∀ dashes rest,
      motive (dashes + 1) rest → motive dashes ('-' :: rest))
    (absorbed : ∀ dashes c rest,
      c ≠ '-' → dashes ≠ 0 → AbsorbsDashes c →
      motive 0 rest → motive dashes (c :: rest))
    (kept : ∀ dashes c rest,
      c ≠ '-' → ¬ (dashes ≠ 0 ∧ AbsorbsDashes c) →
      motive 0 rest → motive dashes (c :: rest))
    (dashes : Nat)
    (cs : List Char) :
    motive dashes cs := by
  induction cs generalizing dashes with
  | nil => exact nil dashes
  | cons c rest ih =>
      by_cases hDash : c = '-'
      · rw [hDash]
        exact dash dashes rest (ih (dashes + 1))
      · by_cases hDrops : dashes ≠ 0 ∧ AbsorbsDashes c
        · exact absorbed dashes c rest hDash hDrops.1 hDrops.2
            (ih 0)
        · exact kept dashes c rest hDash hDrops (ih 0)

------------------------------------------------------------
-- Runs of Dashes
------------------------------------------------------------

/- A text that follows some dashes ends in a dash. -/
def EndsInDash
    (dashes : Nat)
    (cs : List Char) : Prop :=
  (List.replicate dashes '-' ++ cs).getLast? = some '-'

instance (dashes : Nat) (cs : List Char) :
    Decidable (EndsInDash dashes cs) := by
  unfold EndsInDash
  infer_instance

theorem endsInDash_nil_iff
    (dashes : Nat) :
    EndsInDash dashes [] ↔ dashes ≠ 0 := by
  unfold EndsInDash
  rw [List.append_nil, List.getLast?_replicate]
  simp

theorem endsInDash_dash_iff
    (dashes : Nat)
    (cs : List Char) :
    EndsInDash dashes ('-' :: cs) ↔ EndsInDash (dashes + 1) cs := by
  unfold EndsInDash
  rw [List.replicate_succ', List.append_assoc]
  rfl

theorem endsInDash_cons_iff
    (hDash : c ≠ '-')
    (dashes : Nat)
    (cs : List Char) :
    EndsInDash dashes (c :: cs) ↔ EndsInDash 0 cs := by
  unfold EndsInDash
  cases cs with
  | nil => simp [hDash]
  | cons d cs => simp [List.getLast?_append]

/-
  Camel case of a first part is fixed but for the dashes it
  ends in, which wait for what follows.
-/
theorem exists_camelChars_append
    (dashes : Nat)
    (first : List Char) :
    ∃ fixed waiting,
      (EndsInDash dashes first ↔ waiting ≠ 0) ∧
        ∀ second,
          camelChars dashes (first ++ second) =
            fixed ++ camelChars waiting second := by
  induction dashes, first using camel_induction with
  | nil dashes =>
      exact ⟨[], dashes, endsInDash_nil_iff dashes,
        fun second => rfl⟩
  | dash dashes rest ih =>
      rcases ih with ⟨fixed, waiting, hEnds, hRest⟩
      refine ⟨fixed, waiting, ?_, fun second => ?_⟩
      · rw [endsInDash_dash_iff, hEnds]
      · rw [List.cons_append, camelChars_dash, hRest]
  | absorbed dashes c rest hDash hSome hAbsorbs ih =>
      rcases ih with ⟨fixed, waiting, hEnds, hRest⟩
      refine ⟨c.toUpper :: fixed, waiting, ?_, fun second => ?_⟩
      · rw [endsInDash_cons_iff hDash, hEnds]
      · rw [List.cons_append, camelChars_absorbed hAbsorbs hSome,
          hRest, List.cons_append]
  | kept dashes c rest hDash hKept ih =>
      rcases ih with ⟨fixed, waiting, hEnds, hRest⟩
      refine ⟨List.replicate dashes '-' ++ c :: fixed, waiting,
        ?_, fun second => ?_⟩
      · rw [endsInDash_cons_iff hDash, hEnds]
      · rw [List.cons_append, camelChars_kept hDash hKept, hRest,
          List.append_assoc, List.cons_append]

/- If none wait, camel case is found part by part. -/
theorem camelChars_append
    {first : List Char}
    (hApart : ¬ EndsInDash dashes first)
    (second : List Char) :
    camelChars dashes (first ++ second) =
      camelChars dashes first ++ camelChars 0 second := by
  rcases exists_camelChars_append dashes first with
    ⟨fixed, waiting, hEnds, hParts⟩
  rw [hEnds, not_not] at hApart
  subst hApart
  have hFirst := hParts []
  rw [List.append_nil, camelChars, List.replicate_zero,
    List.append_nil] at hFirst
  rw [hParts, hFirst]

/- Texts may be exchanged that agree after any dashes. -/
theorem camelChars_append_congr
    {second second' : List Char}
    (hSame : ∀ dashes,
      camelChars dashes second = camelChars dashes second')
    (dashes : Nat)
    (first : List Char) :
    camelChars dashes (first ++ second) =
      camelChars dashes (first ++ second') := by
  rcases exists_camelChars_append dashes first with
    ⟨fixed, waiting, _, hParts⟩
  rw [hParts, hParts, hSame]

/- A dash at the end is kept. -/
theorem camelChars_concat_dash
    (dashes : Nat)
    (cs : List Char) :
    camelChars dashes (cs ++ ['-']) =
      camelChars dashes cs ++ ['-'] := by
  rcases exists_camelChars_append dashes cs with
    ⟨fixed, waiting, _, hParts⟩
  have hAlone := hParts []
  rw [List.append_nil] at hAlone
  rw [hParts, hAlone, camelChars_dash, camelChars, camelChars,
    List.replicate_succ', List.append_assoc]

theorem camelChars_replicate
    (dashes more : Nat)
    (cs : List Char) :
    camelChars dashes (List.replicate more '-' ++ cs) =
      camelChars (dashes + more) cs := by
  induction more generalizing dashes with
  | zero => rfl
  | succ more ih =>
      rw [List.replicate_succ, List.cons_append, camelChars_dash,
        ih, Nat.add_right_comm, Nat.add_assoc]

/-
  A run of dashes in a text, with what stands before and
  after it. The run neither starts earlier nor ends later.
-/
structure IsDashRun
    (text : List Char)
    (before : List Char)
    (dashes : Nat)
    (after : List Char) : Prop where
  parts : text = before ++ List.replicate dashes '-' ++ after
  nonempty : 0 < dashes
  starts : before.getLast? ≠ some '-'
  stops : after.head? ≠ some '-'

namespace IsDashRun

variable {text before after : List Char}

/- Only what follows the run decides about it. -/
theorem camelChars_eq
    (hRun : IsDashRun text before dashes after) :
    camelChars 0 text =
      camelChars 0 before ++ camelChars dashes after := by
  have hApart : ¬ EndsInDash 0 before := hRun.starts
  rw [hRun.parts, List.append_assoc, camelChars_append hApart,
    camelChars_replicate, Nat.zero_add]

/- Where a small letter or a digit follows, the run is dropped. -/
theorem camelChars_of_absorbsDashes
    {rest : List Char}
    (hRun : IsDashRun text before dashes (c :: rest))
    (hAbsorbs : AbsorbsDashes c) :
    camelChars 0 text =
      camelChars 0 before ++ c.toUpper :: camelChars 0 rest := by
  rw [hRun.camelChars_eq,
    camelChars_absorbed hAbsorbs hRun.nonempty.ne']

/- The run is kept if it is not dropped. -/
theorem camelChars_eq_iff
    (hRun : IsDashRun text before dashes after) :
    camelChars 0 text =
        camelChars 0 before ++ List.replicate dashes '-'
          ++ camelChars 0 after ↔
      after = [] ∨
        ∃ c rest, after = c :: rest ∧ ¬ AbsorbsDashes c := by
  rw [hRun.camelChars_eq, List.append_assoc,
    List.append_cancel_left_eq]
  cases after with
  | nil => simp [camelChars]
  | cons c rest =>
      have hDash : c ≠ '-' := by
        rintro rfl
        exact hRun.stops rfl
      have hAlone :
          camelChars 0 (c :: rest) = c :: camelChars 0 rest :=
        camelChars_kept hDash (fun hDrops => hDrops.1 rfl) rest
      rw [hAlone]
      by_cases hAbsorbs : AbsorbsDashes c
      · -- A run that is dropped leaves too few characters.
        rw [camelChars_absorbed hAbsorbs hRun.nonempty.ne']
        refine iff_of_false ?_ ?_
        · intro hSame
          have hLength := congrArg List.length hSame
          have hSome := hRun.nonempty
          simp only [List.length_append, List.length_cons,
            List.length_replicate] at hLength
          omega
        · rintro (hEnd | ⟨d, others, hParts, hOther⟩)
          · exact List.cons_ne_nil c rest hEnd
          · cases hParts
            exact hOther hAbsorbs
      · rw [camelChars_kept hDash fun hDrops => hAbsorbs hDrops.2]
        exact iff_of_true rfl (.inr ⟨c, rest, rfl, hAbsorbs⟩)

end IsDashRun

------------------------------------------------------------
-- What Is Left of the Dashes
------------------------------------------------------------

/- No dash stands where it would be dropped. -/
def IsCamel (cs : List Char) : Prop :=
  cs.IsChain fun c d => c = '-' → ¬ AbsorbsDashes d

/- Dashes before a character that does not absorb them. -/
theorem isCamel_replicate_append
    {cs : List Char}
    (hCamel : IsCamel cs)
    (hFirst : dashes ≠ 0 → ∀ c ∈ cs.head?, ¬ AbsorbsDashes c) :
    IsCamel (List.replicate dashes '-' ++ cs) := by
  refine List.isChain_append.mpr ⟨?_, hCamel, ?_⟩
  · exact List.isChain_replicate_of_rel dashes
      fun _ => not_absorbsDashes_dash
  · intro c hLast d hHead _
    refine hFirst ?_ d hHead
    rintro rfl
    cases hLast

/-
  Camel case leaves no dash to be dropped. In the induction
  another character stands in front of the text, which is
  how a kept run of dashes follows what came before it.
-/
theorem isCamel_cons_camelChars
    (hFront : c ≠ '-')
    (dashes : Nat)
    (cs : List Char) :
    IsCamel (c :: camelChars dashes cs) := by
  have hStep
      {front : Char}
      {rest : List Char}
      (hFront : front ≠ '-')
      (hRest : IsCamel rest) :
      IsCamel (front :: rest) := by
    refine List.isChain_cons.mpr ⟨?_, hRest⟩
    intro d _ hDash
    exact absurd hDash hFront
  induction dashes, cs using camel_induction generalizing c with
  | nil dashes =>
      apply hStep hFront
      have hDashes : IsCamel (List.replicate dashes '-' ++ []) :=
        isCamel_replicate_append List.isChain_nil (by simp)
      rwa [List.append_nil] at hDashes
  | dash dashes rest ih =>
      rw [camelChars_dash]
      exact ih hFront
  | absorbed dashes d rest hDash hSome hAbsorbs ih =>
      rw [camelChars_absorbed hAbsorbs hSome]
      exact hStep hFront (ih hAbsorbs.toUpper_ne)
  | kept dashes d rest hDash hKept ih =>
      rw [camelChars_kept hDash hKept]
      apply hStep hFront
      refine isCamel_replicate_append (ih hDash) ?_
      intro hSome e hHead hAbsorbs
      cases hHead
      exact hKept ⟨hSome, hAbsorbs⟩

theorem isCamel_camelChars
    (dashes : Nat)
    (cs : List Char) :
    IsCamel (camelChars dashes cs) :=
  (isCamel_cons_camelChars (c := 'a') (by decide) dashes cs).tail

/- A text without dashes to be dropped stays as it is. -/
theorem camelChars_of_isCamel
    {cs : List Char}
    (hCamel : IsCamel (List.replicate dashes '-' ++ cs)) :
    camelChars dashes cs = List.replicate dashes '-' ++ cs := by
  induction dashes, cs using camel_induction with
  | nil dashes => rw [List.append_nil, camelChars]
  | dash dashes rest ih =>
      have hShift :
          List.replicate dashes '-' ++ '-' :: rest =
            List.replicate (dashes + 1) '-' ++ rest := by
        rw [List.replicate_succ', List.append_assoc]
        rfl
      rw [hShift] at hCamel ⊢
      rw [camelChars_dash, ih hCamel]
  | absorbed dashes c rest hDash hSome hAbsorbs ih =>
      have hSeam := (List.isChain_append.mp hCamel).2.2
      have hLast :
          '-' ∈ (List.replicate dashes '-').getLast? := by
        simp [List.getLast?_replicate, hSome]
      exact absurd hAbsorbs (hSeam '-' hLast c rfl rfl)
  | kept dashes c rest hDash hKept ih =>
      have hRest : IsCamel rest :=
        (List.isChain_append.mp hCamel).2.1.tail
      rw [camelChars_kept hDash hKept, ih hRest]
      rfl

------------------------------------------------------------
-- What Is Left of the Other Characters
------------------------------------------------------------

/- A text without its dashes. -/
def undashed (cs : List Char) : List Char :=
  cs.filter (· ≠ '-')

theorem undashed_append
    (first second : List Char) :
    undashed (first ++ second) = undashed first ++ undashed second :=
  List.filter_append first second

theorem undashed_cons
    (hDash : c ≠ '-')
    (rest : List Char) :
    undashed (c :: rest) = c :: undashed rest :=
  List.filter_cons_of_pos (decide_eq_true hDash)

theorem undashed_replicate
    (dashes : Nat) :
    undashed (List.replicate dashes '-') = [] := by
  simp [undashed]

/- No character but dashes is dropped, and none is added. -/
theorem length_undashed_camelChars
    (dashes : Nat)
    (cs : List Char) :
    (undashed (camelChars dashes cs)).length =
      (undashed cs).length := by
  induction dashes, cs using camel_induction with
  | nil dashes =>
      rw [camelChars, undashed_replicate]
      rfl
  | dash dashes rest ih =>
      rw [camelChars_dash, ih]
      rfl
  | absorbed dashes c rest hDash hSome hAbsorbs ih =>
      rw [camelChars_absorbed hAbsorbs hSome,
        undashed_cons hAbsorbs.toUpper_ne, undashed_cons hDash,
        List.length_cons, List.length_cons, ih]
  | kept dashes c rest hDash hKept ih =>
      rw [camelChars_kept hDash hKept, undashed_append,
        undashed_replicate, List.nil_append, undashed_cons hDash,
        undashed_cons hDash, List.length_cons, List.length_cons,
        ih]

/- What a character becomes that stands behind other text. -/
def camelChar
    (dashes : Nat)
    (before : List Char)
    (c : Char) : Char :=
  if EndsInDash dashes before ∧ IsSmallLetter c then
    c.toUpper
  else
    c

theorem camelChar_nil
    (hDrops : dashes ≠ 0 ∧ AbsorbsDashes c) :
    camelChar dashes [] c = c.toUpper := by
  unfold camelChar
  split
  · rfl
  · rename_i hOther
    -- What absorbs dashes and is no letter is a digit.
    refine (toUpper_of_not_isSmallLetter fun hLetter => ?_).symm
    exact hOther
      ⟨(endsInDash_nil_iff dashes).mpr hDrops.1, hLetter⟩

theorem camelChar_nil_of_kept
    (hKept : ¬ (dashes ≠ 0 ∧ AbsorbsDashes c)) :
    camelChar dashes [] c = c := by
  apply if_neg
  rw [endsInDash_nil_iff]
  exact fun hDrops => hKept ⟨hDrops.1, .inl hDrops.2⟩

theorem camelChar_congr
    {dashes' : Nat}
    {before before' : List Char}
    (hEnds :
      EndsInDash dashes before ↔ EndsInDash dashes' before') :
    camelChar dashes before c = camelChar dashes' before' c :=
  if_congr (and_congr_left fun _ => hEnds) rfl rfl

/-
  Each character but the dashes comes out where it stands
  when the dashes are left out.
-/
theorem getElem?_undashed_camelChars
    (hDash : c ≠ '-')
    (dashes : Nat)
    (before after : List Char) :
    (undashed (camelChars dashes (before ++ c :: after)))[
        (undashed before).length]? =
      some (camelChar dashes before c) := by
  induction dashes, before using camel_induction with
  | nil dashes =>
      by_cases hDrops : dashes ≠ 0 ∧ AbsorbsDashes c
      · rw [camelChar_nil hDrops, List.nil_append,
          camelChars_absorbed hDrops.2 hDrops.1,
          undashed_cons hDrops.2.toUpper_ne]
        rfl
      · rw [camelChar_nil_of_kept hDrops, List.nil_append,
          camelChars_kept hDash hDrops, undashed_append,
          undashed_replicate, undashed_cons hDash]
        rfl
  | dash dashes before ih =>
      rw [camelChar_congr (endsInDash_dash_iff dashes before),
        List.cons_append, camelChars_dash, ← ih]
      rfl
  | absorbed dashes d before hOther hSome hAbsorbs ih =>
      rw [camelChar_congr
          (endsInDash_cons_iff hOther dashes before),
        List.cons_append, camelChars_absorbed hAbsorbs hSome,
        undashed_cons hAbsorbs.toUpper_ne, undashed_cons hOther,
        List.length_cons, List.getElem?_cons_succ, ih]
  | kept dashes d before hOther hKept ih =>
      rw [camelChar_congr
          (endsInDash_cons_iff hOther dashes before),
        List.cons_append, camelChars_kept hOther hKept,
        undashed_append, undashed_replicate, List.nil_append,
        undashed_cons hOther, undashed_cons hOther,
        List.length_cons, List.getElem?_cons_succ, ih]

------------------------------------------------------------
-- Camel Case of Texts
------------------------------------------------------------

theorem toList_camelCase
    (s : String) :
    (camelCase s).toList = camelChars 0 s.toList :=
  String.toList_ofList

/-
  Camel case drops all dashes it can and nothing else. No
  dash is left in front of a small letter or a digit, and a
  second pass changes nothing. A run of dashes is kept in
  full if it ends the text or anything else follows it, and
  otherwise only a capital is left of it. The characters that
  are not dashes come out in order and in the same number,
  and each is itself, or the capital of a small letter that
  stood behind a dash.
-/
theorem camelCase_normalises
    (s : String) :
    (∀ c, ['-', c] <:+: (camelCase s).toList →
        ¬ AbsorbsDashes c) ∧
      camelCase (camelCase s) = camelCase s ∧
      (∀ before dashes after,
        IsDashRun s.toList before dashes after →
        ((camelCase s).toList =
              camelChars 0 before ++ List.replicate dashes '-'
                ++ camelChars 0 after ↔
            after = [] ∨
              ∃ c rest, after = c :: rest ∧
                ¬ AbsorbsDashes c) ∧
          ∀ c rest,
            after = c :: rest → AbsorbsDashes c →
            (camelCase s).toList =
              camelChars 0 before
                ++ c.toUpper :: camelChars 0 rest) ∧
      (undashed (camelCase s).toList).length =
        (undashed s.toList).length ∧
      ∀ before c after,
        s.toList = before ++ c :: after → c ≠ '-' →
        (undashed (camelCase s).toList)[
            (undashed before).length]? =
          some
            (if before.getLast? = some '-'
                ∧ IsSmallLetter c then
              c.toUpper
            else
              c) := by
  have hCamel := isCamel_camelChars 0 s.toList
  rw [toList_camelCase]
  refine ⟨?_, ?_, ?_, length_undashed_camelChars 0 s.toList, ?_⟩
  · intro c hInfix
    have hPair := List.IsChain.infix hCamel hInfix
    exact List.isChain_pair.mp hPair rfl
  · rw [camelCase, toList_camelCase, camelChars_of_isCamel hCamel]
    rfl
  · intro before dashes after hRun
    refine ⟨hRun.camelChars_eq_iff, ?_⟩
    rintro c rest rfl hAbsorbs
    exact hRun.camelChars_of_absorbsDashes hAbsorbs
  · intro before c after hText hDash
    rw [hText, getElem?_undashed_camelChars hDash]
    exact congrArg some (if_congr Iff.rfl rfl rfl)

/-
  Two runs of one text: the one before `B` is kept, and the
  one before `1` is dropped.
-/
theorem camelCase_normalises_mixed :
    let first := ['-', '-', 'a']
    let second := ['B', '-', '-', '1', '-']
    let result := (camelCase "--a-B--1-").toList
    (['-', 'B'] <:+: result ∧ ¬ AbsorbsDashes 'B') ∧
      (IsDashRun "--a-B--1-".toList first 1 second ∧
        result =
          camelChars 0 first ++ ['-'] ++ camelChars 0 second) ∧
      (IsDashRun "--a-B--1-".toList (first ++ ['-', 'B']) 2
          ['1', '-'] ∧
        result =
          camelChars 0 (first ++ ['-', 'B'])
            ++ '1' :: camelChars 0 ['-']) ∧
      (undashed result)[0]? = some 'A' := by
  intro first second result
  rcases camelCase_normalises "--a-B--1-" with
    ⟨hInfix, _, hRuns, _, hOthers⟩
  have hKept : IsDashRun "--a-B--1-".toList first 1 second :=
    ⟨by decide, by decide, by decide, by decide⟩
  have hDropped :
      IsDashRun "--a-B--1-".toList (first ++ ['-', 'B']) 2
        ['1', '-'] :=
    ⟨by decide, by decide, by decide, by decide⟩
  have hSeam : ['-', 'B'] <:+: result := by decide
  refine ⟨⟨hSeam, hInfix 'B' hSeam⟩, ⟨hKept, ?_⟩,
    ⟨hDropped, ?_⟩, ?_⟩
  · exact (hRuns _ _ _ hKept).1.mpr
      (.inr ⟨'B', ['-', '-', '1', '-'], rfl, by decide⟩)
  · exact (hRuns _ _ _ hDropped).2 '1' ['-'] rfl (by decide)
  · exact hOthers ['-', '-'] 'a'
      ['-', 'B', '-', '-', '1', '-'] (by decide) (by decide)

end Text

end TemplateJsx
