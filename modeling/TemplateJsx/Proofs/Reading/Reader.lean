import TemplateJsx.Jsx.Print
import TemplateJsx.Proofs.Quoting

/-
  A reader of printed expressions. It reads a text from the
  left and returns the tree together with what follows it.
  Operators are read by precedence climbing, and a bracket
  opens a function exactly if parameters and an arrow follow
  it.

  What is left over is shorter than the text, and a reading
  carries the proof of that, so that the reader ends. How
  numerals are decoded is left open.

  Key definitions include:
    * `Jsx.readName`
    * `Jsx.Reading`
    * `Jsx.readParams`
    * `Jsx.readAssignment`
    * `Jsx.readOperand`
    * `Jsx.readOperators`
    * `Jsx.readChain`
    * `Jsx.readLinks`
-/

------------------------------------------------------------
-- Names and Numerals
------------------------------------------------------------

namespace TemplateJsx

namespace Jsx

/- Read the longest name. -/
def readName (cs : List Char) : Option (String × List Char) :=
  if Text.isName (cs.takeWhile Text.isNameRest) then
    some (String.ofList (cs.takeWhile Text.isNameRest),
      cs.dropWhile Text.isNameRest)
  else
    none

/- What a name stands for as an expression. -/
def wordExpr (name : String) : Expr :=
  if name = "true" then .boolean true
  else if name = "false" then .boolean false
  else if name = "null" then .null
  else .identifier name

/- Divide off digits, with a point only between digits. -/
def splitMagnitude
    (cs : List Char) : List Char × List Char :=
  match cs.dropWhile Char.isDigit with
  | '.' :: c :: rest =>
      if c.isDigit then
        (cs.takeWhile Char.isDigit ++
            '.' :: (c :: rest).takeWhile Char.isDigit,
          (c :: rest).dropWhile Char.isDigit)
      else
        (cs.takeWhile Char.isDigit, '.' :: c :: rest)
  | rest => (cs.takeWhile Char.isDigit, rest)

/- Divide off a numeral. -/
def splitNumeral : List Char → List Char × List Char
  | [] => ([], [])
  | c :: rest =>
      if c = '-' then
        ('-' :: (splitMagnitude rest).1, (splitMagnitude rest).2)
      else
        splitMagnitude (c :: rest)

/- Read an operator with the blanks around it. -/
def readOperator? :
    List Char → Option (BinaryOp × List Char)
  | ' ' :: '+' :: ' ' :: rest => some (.add, rest)
  | ' ' :: '&' :: '&' :: ' ' :: rest => some (.and, rest)
  | ' ' :: '|' :: '|' :: ' ' :: rest => some (.or, rest)
  | _ => none

/- Read the key of a property. -/
def readKey : List Char → Option (String × List Char)
  | [] => none
  | c :: cs =>
      if c = '\'' then do
        let (text, rest) ← unquote cs
        return (String.ofList text, rest)
      else
        readName (c :: cs)

/- Characters that a test tells apart are different. -/
theorem ne_of_test
    {p : Char → Bool}
    {c d : Char}
    (hTrue : p c = true)
    (hFalse : p d = false) :
    c ≠ d := by
  rintro rfl
  rw [hTrue] at hFalse
  cases hFalse

/- Any other character starts no numeral. -/
theorem ne_of_numeral
    {c d : Char}
    (hStart : c = '-' ∨ c.isDigit = true)
    (hMinus : d ≠ '-')
    (hDigit : d.isDigit = false) :
    c ≠ d := by
  rcases hStart with rfl | hTrue
  · exact hMinus.symm
  · exact ne_of_test hTrue hDigit

------------------------------------------------------------
-- What Is Left Over
------------------------------------------------------------

/- Something is read as a name, so there is less after it. -/
theorem readName_shorter
    (cs : List Char) :
    ∀ found, readName cs = some found →
      found.2.length < cs.length := by
  intro found hFound
  unfold readName at hFound
  split at hFound
  · rename_i hName
    cases hFound
    have hSplit := congrArg List.length
      (List.takeWhile_append_dropWhile (p := Text.isNameRest)
        (l := cs))
    rw [List.length_append] at hSplit
    cases hFront : cs.takeWhile Text.isNameRest with
    | nil =>
        rw [hFront] at hName
        cases hName
    | cons c front =>
        rw [hFront, List.length_cons] at hSplit
        dsimp only
        omega
  · cases hFound

/- The closing quote is not left over. -/
theorem unquote_shorter
    (cs : List Char) :
    ∀ found, unquote cs = some found →
      found.2.length < cs.length := by
  fun_induction unquote cs with
  | case1 =>
      intro found hFound
      cases hFound
  | case2 rest =>
      intro found hFound
      cases hFound
      exact Nat.lt_succ_self _
  | case3 c rest ih =>
      intro found hFound
      rcases Option.map_eq_some_iff.mp hFound with
        ⟨inner, hInner, rfl⟩
      have hLess := ih inner hInner
      simp only [List.length_cons]
      omega
  | case4 c rest _ _ ih =>
      intro found hFound
      rcases Option.map_eq_some_iff.mp hFound with
        ⟨inner, hInner, rfl⟩
      have hLess := ih inner hInner
      simp only [List.length_cons]
      omega

theorem readKey_shorter
    (cs : List Char) :
    ∀ found, readKey cs = some found →
      found.2.length < cs.length := by
  intro found hFound
  cases cs with
  | nil => cases hFound
  | cons c cs =>
      rw [readKey] at hFound
      by_cases hQuote : c = '\''
      · rw [if_pos hQuote] at hFound
        rcases Option.bind_eq_some_iff.mp hFound with
          ⟨inner, hInner, hRest⟩
        have hLess := unquote_shorter cs inner hInner
        cases hRest
        exact Nat.lt_succ_of_lt hLess
      · rw [if_neg hQuote] at hFound
        exact readName_shorter _ found hFound

/- No more is left over than there was. -/
theorem splitMagnitude_length_le
    (cs : List Char) :
    (splitMagnitude cs).2.length ≤
      (cs.dropWhile Char.isDigit).length := by
  unfold splitMagnitude
  split
  · rename_i c rest hDrop
    rw [hDrop]
    split
    · have hLess := (List.dropWhile_suffix Char.isDigit
        (l := c :: rest)).length_le
      exact Nat.le_succ_of_le hLess
    · exact Nat.le_refl _
  · exact Nat.le_refl _

/- A sign or a digit is divided off. -/
theorem splitNumeral_shorter
    {c : Char}
    (cs : List Char)
    (hStart : c = '-' ∨ c.isDigit = true) :
    (splitNumeral (c :: cs)).2.length < (c :: cs).length := by
  have hDrop :=
    (List.dropWhile_suffix Char.isDigit (l := cs)).length_le
  rw [splitNumeral]
  by_cases hMinus : c = '-'
  · rw [if_pos hMinus]
    have hLess := splitMagnitude_length_le cs
    exact Nat.lt_succ_of_le (Nat.le_trans hLess hDrop)
  · rw [if_neg hMinus]
    have hDigit : c.isDigit = true := hStart.resolve_left hMinus
    have hLess := splitMagnitude_length_le (c :: cs)
    rw [List.dropWhile_cons_of_pos hDigit] at hLess
    exact Nat.lt_succ_of_le (Nat.le_trans hLess hDrop)

/- An operator is not left over. -/
theorem readOperator?_shorter
    (cs : List Char) :
    ∀ found, readOperator? cs = some found →
      found.2.length < cs.length := by
  intro found hFound
  unfold readOperator? at hFound
  split at hFound <;> cases hFound <;>
    (simp only [List.length_cons]; omega)

------------------------------------------------------------
-- Readings
------------------------------------------------------------

/-
  Something read, and a text left over that is shorter than
  the bound. The bound of most readings is the length of the
  text they are read from.
-/
structure Reading
    (α : Type)
    (bound : Nat) where
  value : α
  rest : List Char
  shorter : rest.length < bound

namespace Reading

variable
  {α β : Type}
  {m n : Nat}

/- What a reading found, without the bound. -/
def plain
    (r : Option (Reading α n)) : Option (α × List Char) :=
  r.map fun found => (found.value, found.rest)

/- The same reading of a part of a longer text. -/
def into
    (f : α → β)
    (hBound : m ≤ n)
    (r : Reading α m) : Reading β n where
  value := f r.value
  rest := r.rest
  shorter := Nat.lt_of_lt_of_le r.shorter hBound

/- A reading with the proof that something was read. -/
def attach
    {found : Option (α × List Char)}
    (hShorter : ∀ p, found = some p → p.2.length < n) :
    Option (Reading α n) :=
  found.pmap (fun p hLess => ⟨p.1, p.2, hLess⟩) hShorter

/- Pass over a mark that has to come next. -/
def skip
    (mark : List Char)
    (r : Reading α n) : Option (Reading α n) :=
  if mark.isPrefixOf r.rest then
    some
      { value := r.value
        rest := r.rest.drop mark.length
        shorter :=
          Nat.lt_of_le_of_lt (List.drop_suffix _ _).length_le
            r.shorter }
  else
    none

/-
  Read on in a list, of which one item was read: a comma is
  followed by more of it, and a mark closes it.
-/
def andMore
    (close : List Char)
    (first : Reading α n)
    (others : (rest : List Char) → rest.length < n →
      Option (Reading (List α) rest.length)) :
    Option (Reading (List α) n) :=
  match first.skip [',', ' '] with
  | some first =>
      (others first.rest first.shorter).map
        (into (first.value :: ·) (Nat.le_of_lt first.shorter))
  | none =>
      (first.skip close).map
        (into (fun item => [item]) (Nat.le_refl n))

/- A plain result comes from a reading with its bound. -/
theorem eq_some_of_plain
    {r : Option (Reading α n)}
    {value : α}
    {rest : List Char}
    (h : plain r = some (value, rest)) :
    ∃ hLess, r = some ⟨value, rest, hLess⟩ := by
  cases r with
  | none => cases h
  | some found =>
      cases h
      exact ⟨found.shorter, rfl⟩

@[simp]
theorem plain_map_into
    (f : α → β)
    (hBound : m ≤ n)
    (r : Option (Reading α m)) :
    plain (r.map (into f hBound)) =
      (plain r).map fun p => (f p.1, p.2) := by
  cases r with
  | none => rfl
  | some found => rfl

theorem plain_map_id
    (hBound : m ≤ n)
    (r : Option (Reading α m)) :
    plain (r.map (into id hBound)) = plain r := by
  cases r with
  | none => rfl
  | some found => rfl

theorem attach_eq_some
    {found : Option (α × List Char)}
    {value : α}
    {rest : List Char}
    (hShorter : ∀ p, found = some p → p.2.length < n)
    (hFound : found = some (value, rest)) :
    attach hShorter =
      some ⟨value, rest, hShorter _ hFound⟩ := by
  subst hFound
  rfl

theorem attach_eq_none
    {found : Option (α × List Char)}
    (hShorter : ∀ p, found = some p → p.2.length < n)
    (hFound : found = none) :
    attach hShorter = none := by
  subst hFound
  rfl

/- A mark that comes next is passed over. -/
theorem skip_eq_some
    {r : Reading α n}
    {rest : List Char}
    (mark : List Char)
    (hRest : r.rest = mark ++ rest) :
    ∃ hLess, r.skip mark = some ⟨r.value, rest, hLess⟩ := by
  have hLess := r.shorter
  rw [hRest, List.length_append] at hLess
  refine ⟨by omega, ?_⟩
  unfold skip
  simp [hRest]

/- A mark that starts otherwise does not come next. -/
theorem skip_eq_none
    {r : Reading α n}
    {c d : Char}
    {rest : List Char}
    (mark : List Char)
    (hRest : r.rest = c :: rest)
    (hOther : c ≠ d) :
    r.skip (d :: mark) = none := by
  have hMark : (d == c) = false :=
    beq_eq_false_iff_ne.mpr hOther.symm
  have hPrefix : (d :: mark).isPrefixOf r.rest = false := by
    rw [hRest, List.isPrefixOf_cons_cons, hMark]
    rfl
  unfold skip
  rw [hPrefix]
  rfl

/- After a comma the others are read. -/
theorem plain_andMore_comma
    {close : List Char}
    {value : α}
    {values : List α}
    {more rest : List Char}
    {others : (rest : List Char) → rest.length < n →
      Option (Reading (List α) rest.length)}
    (hLess : (',' :: ' ' :: more).length < n)
    (hOthers : ∀ hMore,
      plain (others more hMore) = some (values, rest)) :
    plain (andMore close ⟨value, ',' :: ' ' :: more, hLess⟩
      others) = some (value :: values, rest) := by
  rcases skip_eq_some (r := ⟨value, _, hLess⟩) [',', ' '] rfl
    with ⟨_, hSkip⟩
  unfold andMore
  rw [hSkip]
  dsimp only
  rw [plain_map_into, hOthers]
  rfl

/- The mark that closes a list follows its last item. -/
theorem plain_andMore_last
    {c : Char}
    {close : List Char}
    {value : α}
    {rest : List Char}
    {others : (rest : List Char) → rest.length < n →
      Option (Reading (List α) rest.length)}
    (hLess : (c :: close ++ rest).length < n)
    (hClose : c ≠ ',') :
    plain (andMore (c :: close)
      ⟨value, c :: close ++ rest, hLess⟩ others) =
        some ([value], rest) := by
  rcases skip_eq_some (r := ⟨value, _, hLess⟩) (c :: close) rfl
    with ⟨_, hSkip⟩
  unfold andMore
  rw [skip_eq_none _ rfl hClose, hSkip]
  rfl

/- A list goes on with a comma or ends with its mark. -/
theorem andMore_eq_none
    {c d : Char}
    {close rest : List Char}
    {first : Reading α n}
    {others : (rest : List Char) → rest.length < n →
      Option (Reading (List α) rest.length)}
    (hRest : first.rest = c :: rest)
    (hComma : c ≠ ',')
    (hClose : c ≠ d) :
    andMore (d :: close) first others = none := by
  unfold andMore
  rw [skip_eq_none _ hRest hComma, skip_eq_none _ hRest hClose]
  rfl

end Reading

open Reading

------------------------------------------------------------
-- Parameters
------------------------------------------------------------

/- Read names up to the arrow. -/
def readNames
    (cs : List Char) :
    Option (Reading (List String) cs.length) := do
  let first ← attach (readName_shorter cs)
  first.andMore [')', ' ', '=', '>', ' '] fun rest _ =>
    readNames rest
termination_by cs.length

/- A comma is followed by more names. -/
theorem readNames_comma
    {cs more after : List Char}
    {name : String}
    {names : List String}
    (hName : readName cs = some (name, ',' :: ' ' :: more))
    (hNames : plain (readNames more) = some (names, after)) :
    plain (readNames cs) = some (name :: names, after) := by
  rw [readNames, attach_eq_some _ hName, Option.bind_eq_bind,
    Option.bind_some]
  apply plain_andMore_comma
  intro _
  exact hNames

/- The arrow ends the names. -/
theorem readNames_arrow
    {cs after : List Char}
    {name : String}
    (hName :
      readName cs =
        some (name, ')' :: ' ' :: '=' :: '>' :: ' ' :: after)) :
    plain (readNames cs) = some ([name], after) := by
  rw [readNames, attach_eq_some _ hName, Option.bind_eq_bind,
    Option.bind_some]
  exact plain_andMore_last _ (by decide)

/- Read what follows the bracket that opens parameters. -/
def readParamList :
    (cs : List Char) →
    Option (Reading (List String) cs.length)
  | ')' :: ' ' :: '=' :: '>' :: ' ' :: after =>
      some ⟨[], after, by simp only [List.length_cons]; omega⟩
  | cs => readNames cs

/- Read the parameters of a function with its arrow. -/
def readParams :
    (cs : List Char) →
    Option (Reading (List String) cs.length)
  | '(' :: cs =>
      (readParamList cs).map (into id (Nat.le_succ _))
  | _ => none

------------------------------------------------------------
-- Expressions
------------------------------------------------------------

section Reader

variable
  (decode : List Char → Option Number)

-- Readers that may start at the same character are ranked; a
-- character weighs more than the highest rank.
mutual

/- Read any expression. -/
def readAssignment
    (cs : List Char) : Option (Reading Expr cs.length) :=
  match readParams cs with
  | some params => do
      let body ← readAssignment params.rest
      return body.into (.arrow params.value)
        (Nat.le_of_lt params.shorter)
  | none => do
      let test ← readOperand Precedence.or cs
      match test.skip [' ', '?', ' '] with
      | some test => do
          let consequent ← readAssignment test.rest
          let consequent ← consequent.skip [' ', ':', ' ']
          let alternate ← readAssignment consequent.rest
          return alternate.into
            (.conditional test.value consequent.value)
            (Nat.le_of_lt
              (Nat.lt_trans consequent.shorter test.shorter))
      | none => return test
termination_by 5 * cs.length + 3
decreasing_by
  · have hLess := params.shorter
    omega
  · omega
  · have hLess := test.shorter
    omega
  · have hLess := test.shorter
    have hLess' := consequent.shorter
    omega

/- Read operands joined by operators that bind tightly enough. -/
def readOperand
    (least : Nat)
    (cs : List Char) : Option (Reading Expr cs.length) := do
  let first ← readChain cs
  (readOperators least first.value first.rest).map
    (into id first.shorter)
termination_by 5 * cs.length + 2
decreasing_by
  · omega
  · have hLess := first.shorter
    omega

/- Read operators with their right operands. -/
def readOperators
    (least : Nat)
    (left : Expr)
    (cs : List Char) : Option (Reading Expr (cs.length + 1)) :=
  match attach (readOperator?_shorter cs) with
  | some op =>
      if least ≤ op.value.precedence then do
        let right ← readOperand (op.value.precedence + 1) op.rest
        (readOperators least (.binary op.value left right.value)
          right.rest).map (into id
            (Nat.le_succ_of_le
              (Nat.lt_trans right.shorter op.shorter)))
      else
        some ⟨left, cs, Nat.lt_succ_self _⟩
  | none => some ⟨left, cs, Nat.lt_succ_self _⟩
termination_by 5 * cs.length
decreasing_by
  · have hLess := op.shorter
    omega
  · have hLess := op.shorter
    have hLess' := right.shorter
    omega

/- Read a primary with the accesses and calls after it. -/
def readChain
    (cs : List Char) : Option (Reading Expr cs.length) := do
  let first ← readPrimary cs
  (readLinks first.value first.rest).map
    (into id first.shorter)
termination_by 5 * cs.length + 1
decreasing_by
  · omega
  · have hLess := first.shorter
    omega

/- Read accesses and calls. -/
def readLinks
    (e : Expr) :
    (cs : List Char) → Option (Reading Expr (cs.length + 1))
  | [] => some ⟨e, [], Nat.zero_lt_one⟩
  | c :: rest =>
      if c = '.' then do
        let name ← attach (readName_shorter rest)
        (readLinks (.member e name.value) name.rest).map
          (into id (by
            have hLess := name.shorter
            rw [List.length_cons]
            omega))
      else if c = '[' then do
        let property ← attach (readKey_shorter rest)
        let property ← property.skip [']']
        (readLinks (.member e property.value) property.rest).map
          (into id (by
            have hLess := property.shorter
            rw [List.length_cons]
            omega))
      else if c = '(' then do
        let arguments ← readArguments rest
        (readLinks (.call e arguments.value) arguments.rest).map
          (into id (by
            have hLess := arguments.shorter
            rw [List.length_cons]
            omega))
      else
        some ⟨e, c :: rest, Nat.lt_succ_self _⟩
termination_by cs => 5 * cs.length
decreasing_by
  · have hLess := name.shorter
    rw [List.length_cons]
    omega
  · have hLess := property.shorter
    rw [List.length_cons]
    omega
  · rw [List.length_cons]
    omega
  · have hLess := arguments.shorter
    rw [List.length_cons]
    omega

/- Read what has no operator, access or call of its own. -/
def readPrimary :
    (cs : List Char) → Option (Reading Expr cs.length)
  | [] => none
  | c :: rest =>
      if c = '(' then do
        let inside ← readAssignment rest
        let inside ← inside.skip [')']
        return inside.into id (Nat.le_succ _)
      else if c = '\'' then do
        let text ← attach (unquote_shorter rest)
        return text.into (fun cs => .string (String.ofList cs))
          (Nat.le_succ _)
      else if c = '\x7b' then do
        let properties ← readBraces rest
        return properties.into .object (Nat.le_succ _)
      else if Text.isNameStart c then do
        let name ← attach (readName_shorter (c :: rest))
        return name.into wordExpr (Nat.le_refl _)
      else if hStart : c = '-' ∨ c.isDigit then do
        let value ← decode (splitNumeral (c :: rest)).1
        return ⟨.number value, (splitNumeral (c :: rest)).2,
          splitNumeral_shorter rest hStart⟩
      else
        none
termination_by cs => 5 * cs.length
decreasing_by
  · rw [List.length_cons]
    omega
  · rw [List.length_cons]
    omega

/- Read arguments up to the closing bracket. -/
def readArguments :
    (cs : List Char) → Option (Reading (List Expr) cs.length)
  | ')' :: rest => some ⟨[], rest, Nat.lt_succ_self _⟩
  | cs => do
      let first ← readAssignment cs
      first.andMore [')'] fun rest _ => readArguments rest
termination_by cs => 5 * cs.length + 4
decreasing_by
  · omega
  · omega

/- Read what follows the brace that opens an object. -/
def readBraces :
    (cs : List Char) →
    Option (Reading (List Property) cs.length)
  | '\x7d' :: rest => some ⟨[], rest, Nat.lt_succ_self _⟩
  | ' ' :: rest =>
      (readProperties rest).map (into id (Nat.le_succ _))
  | _ => none
termination_by cs => 5 * cs.length
decreasing_by
  rw [List.length_cons]
  omega

/- Read properties up to the closing brace. -/
def readProperties
    (cs : List Char) :
    Option (Reading (List Property) cs.length) := do
  let key ← attach (readKey_shorter cs)
  let key ← key.skip [':', ' ']
  let value ← readAssignment key.rest
  (value.into (.mk key.value) (Nat.le_of_lt key.shorter)).andMore
    [' ', '\x7d'] fun rest _ => readProperties rest
termination_by 5 * cs.length
decreasing_by
  · have hLess := key.shorter
    omega
  · omega

end

------------------------------------------------------------
-- Steps of the Reader
------------------------------------------------------------

variable
  {decode : List Char → Option Number}

theorem readAssignment_arrow
    {cs rest after : List Char}
    {params : List String}
    {body : Expr}
    (hParams : plain (readParams cs) = some (params, rest))
    (hBody :
      plain (readAssignment decode rest) = some (body, after)) :
    plain (readAssignment decode cs) =
      some (.arrow params body, after) := by
  rcases eq_some_of_plain hParams with ⟨_, hParams⟩
  rcases eq_some_of_plain hBody with ⟨_, hBody⟩
  rw [readAssignment, hParams]
  dsimp only
  rw [hBody]
  rfl

theorem readAssignment_conditional
    {cs first second after : List Char}
    {test consequent alternate : Expr}
    (hParams : readParams cs = none)
    (hTest :
      plain (readOperand decode Precedence.or cs) =
        some (test, ' ' :: '?' :: ' ' :: first))
    (hConsequent :
      plain (readAssignment decode first) =
        some (consequent, ' ' :: ':' :: ' ' :: second))
    (hAlternate :
      plain (readAssignment decode second) =
        some (alternate, after)) :
    plain (readAssignment decode cs) =
      some (.conditional test consequent alternate, after) := by
  rcases eq_some_of_plain hTest with ⟨_, hTest⟩
  rcases eq_some_of_plain hConsequent with ⟨_, hConsequent⟩
  rcases eq_some_of_plain hAlternate with ⟨_, hAlternate⟩
  rw [readAssignment, hParams]
  dsimp only
  rw [hTest]
  change plain ((readAssignment decode first).bind _) = _
  rw [hConsequent]
  change plain ((readAssignment decode second).bind _) = _
  rw [hAlternate]
  rfl

theorem readOperand_eq
    {cs rest : List Char}
    {e : Expr}
    (least : Nat)
    (hChain : plain (readChain decode cs) = some (e, rest)) :
    plain (readOperand decode least cs) =
      plain (readOperators decode least e rest) := by
  rcases eq_some_of_plain hChain with ⟨_, hChain⟩
  rw [readOperand, hChain, Option.bind_eq_bind,
    Option.bind_some, plain_map_id]

/- An operator that binds tightly enough is taken. -/
theorem readOperators_take
    {least : Nat}
    {left right : Expr}
    {op : BinaryOp}
    {cs rest after : List Char}
    (hOperator : readOperator? cs = some (op, rest))
    (hBinds : least ≤ op.precedence)
    (hRight :
      plain (readOperand decode (op.precedence + 1) rest) =
        some (right, after)) :
    plain (readOperators decode least left cs) =
      plain (readOperators decode least (.binary op left right)
        after) := by
  rcases eq_some_of_plain hRight with ⟨_, hRight⟩
  rw [readOperators, attach_eq_some _ hOperator]
  dsimp only
  rw [if_pos hBinds, hRight, Option.bind_eq_bind,
    Option.bind_some, plain_map_id]

/- Any other operator is left to the places around. -/
theorem readOperators_leave
    {least : Nat}
    {left : Expr}
    {cs : List Char}
    (hLoose : ∀ op rest,
      readOperator? cs = some (op, rest) →
        op.precedence < least) :
    plain (readOperators decode least left cs) =
      some (left, cs) := by
  cases hOperator : readOperator? cs with
  | none =>
      rw [readOperators, attach_eq_none _ hOperator]
      rfl
  | some found =>
      have hLess := hLoose found.1 found.2 hOperator
      rw [readOperators, attach_eq_some _ hOperator]
      exact congrArg plain (if_neg (Nat.not_le.mpr hLess))

theorem readChain_eq
    {cs rest : List Char}
    {e : Expr}
    (hPrimary : plain (readPrimary decode cs) = some (e, rest)) :
    plain (readChain decode cs) =
      plain (readLinks decode e rest) := by
  rcases eq_some_of_plain hPrimary with ⟨_, hPrimary⟩
  rw [readChain, hPrimary, Option.bind_eq_bind,
    Option.bind_some, plain_map_id]

theorem readLinks_name
    {e : Expr}
    {name : String}
    {cs rest : List Char}
    (hName : readName cs = some (name, rest)) :
    plain (readLinks decode e ('.' :: cs)) =
      plain (readLinks decode (.member e name) rest) := by
  rw [readLinks, if_pos rfl, attach_eq_some _ hName,
    Option.bind_eq_bind, Option.bind_some, plain_map_id]

theorem readLinks_key
    {e : Expr}
    {property : String}
    {cs rest : List Char}
    (hKey : readKey cs = some (property, ']' :: rest)) :
    plain (readLinks decode e ('[' :: cs)) =
      plain (readLinks decode (.member e property) rest) := by
  rcases skip_eq_some
      (r := ⟨property, _, readKey_shorter cs _ hKey⟩) [']'] rfl
    with ⟨_, hSkip⟩
  rw [readLinks, if_neg (by decide), if_pos rfl,
    attach_eq_some _ hKey, Option.bind_eq_bind,
    Option.bind_some, hSkip, Option.bind_some, plain_map_id]

theorem readLinks_call
    {e : Expr}
    {arguments : List Expr}
    {cs rest : List Char}
    (hArguments :
      plain (readArguments decode cs) = some (arguments, rest)) :
    plain (readLinks decode e ('(' :: cs)) =
      plain (readLinks decode (.call e arguments) rest) := by
  rcases eq_some_of_plain hArguments with ⟨_, hArguments⟩
  rw [readLinks, if_neg (by decide), if_neg (by decide),
    if_pos rfl, hArguments, Option.bind_eq_bind,
    Option.bind_some, plain_map_id]

theorem readPrimary_bracket
    {e : Expr}
    {cs rest : List Char}
    (hInside :
      plain (readAssignment decode cs) = some (e, ')' :: rest)) :
    plain (readPrimary decode ('(' :: cs)) = some (e, rest) := by
  rcases eq_some_of_plain hInside with ⟨_, hInside⟩
  rw [readPrimary, if_pos rfl, hInside]
  rfl

theorem readPrimary_string
    {text cs rest : List Char}
    (hText : unquote cs = some (text, rest)) :
    plain (readPrimary decode ('\'' :: cs)) =
      some (.string (String.ofList text), rest) := by
  rw [readPrimary, if_neg (by decide), if_pos rfl,
    attach_eq_some _ hText]
  rfl

theorem readPrimary_object
    {properties : List Property}
    {cs rest : List Char}
    (hBraces :
      plain (readBraces decode cs) = some (properties, rest)) :
    plain (readPrimary decode ('\x7b' :: cs)) =
      some (.object properties, rest) := by
  rcases eq_some_of_plain hBraces with ⟨_, hBraces⟩
  rw [readPrimary, if_neg (by decide), if_neg (by decide),
    if_pos rfl, hBraces]
  rfl

theorem readPrimary_word
    {name : String}
    {c : Char}
    {cs rest : List Char}
    (hStart : Text.isNameStart c = true)
    (hName : readName (c :: cs) = some (name, rest)) :
    plain (readPrimary decode (c :: cs)) =
      some (wordExpr name, rest) := by
  have hBracket : c ≠ '(' := ne_of_test hStart (by decide)
  have hQuote : c ≠ '\'' := ne_of_test hStart (by decide)
  have hBrace : c ≠ '\x7b' := ne_of_test hStart (by decide)
  rw [readPrimary, if_neg hBracket, if_neg hQuote,
    if_neg hBrace, if_pos hStart, attach_eq_some _ hName]
  rfl

theorem readPrimary_numeral
    {value : Number}
    {c : Char}
    {cs : List Char}
    (hStart : c = '-' ∨ c.isDigit = true)
    (hName : Text.isNameStart c = false)
    (hValue :
      decode (splitNumeral (c :: cs)).1 = some value) :
    plain (readPrimary decode (c :: cs)) =
      some (.number value, (splitNumeral (c :: cs)).2) := by
  have hBracket : c ≠ '(' :=
    ne_of_numeral hStart (by decide) (by decide)
  have hQuote : c ≠ '\'' :=
    ne_of_numeral hStart (by decide) (by decide)
  have hBrace : c ≠ '\x7b' :=
    ne_of_numeral hStart (by decide) (by decide)
  have hWord : ¬ Text.isNameStart c = true :=
    Bool.eq_false_iff.mp hName
  rw [readPrimary, if_neg hBracket, if_neg hQuote,
    if_neg hBrace, if_neg hWord, dif_pos hStart, hValue]
  rfl

/- A closing bracket starts no expression. -/
theorem readAssignment_bracket
    (cs : List Char) :
    readAssignment decode (')' :: cs) = none := by
  have hPrimary : readPrimary decode (')' :: cs) = none := by
    rw [readPrimary]
    rfl
  have hChain : readChain decode (')' :: cs) = none := by
    rw [readChain, hPrimary]
    rfl
  have hOperand :
      readOperand decode Precedence.or (')' :: cs) = none := by
    rw [readOperand, hChain]
    rfl
  have hParams : readParams (')' :: cs) = none := rfl
  rw [readAssignment, hParams]
  dsimp only
  rw [hOperand]
  rfl

/- What starts an expression does not close the arguments. -/
theorem ne_bracket_of_readAssignment
    {first : Expr}
    {cs rest : List Char}
    (hFirst :
      plain (readAssignment decode cs) = some (first, rest))
    (after : List Char) :
    cs ≠ ')' :: after := by
  rintro rfl
  rw [readAssignment_bracket] at hFirst
  cases hFirst

theorem readArguments_comma
    {first : Expr}
    {others : List Expr}
    {cs more rest : List Char}
    (hFirst :
      plain (readAssignment decode cs) =
        some (first, ',' :: ' ' :: more))
    (hOthers :
      plain (readArguments decode more) = some (others, rest)) :
    plain (readArguments decode cs) =
      some (first :: others, rest) := by
  have hStart := ne_bracket_of_readAssignment hFirst
  rcases eq_some_of_plain hFirst with ⟨_, hFirst⟩
  rw [readArguments, hFirst, Option.bind_eq_bind,
    Option.bind_some]
  · apply plain_andMore_comma
    intro _
    exact hOthers
  · exact hStart

theorem readArguments_last
    {first : Expr}
    {cs rest : List Char}
    (hFirst :
      plain (readAssignment decode cs) =
        some (first, ')' :: rest)) :
    plain (readArguments decode cs) = some ([first], rest) := by
  have hStart := ne_bracket_of_readAssignment hFirst
  rcases eq_some_of_plain hFirst with ⟨_, hFirst⟩
  rw [readArguments, hFirst, Option.bind_eq_bind,
    Option.bind_some]
  · exact plain_andMore_last _ (by decide)
  · exact hStart

/- A key and its value are one item of the list. -/
theorem readProperties_eq
    {key : String}
    {value : Expr}
    {cs between rest : List Char}
    (hKey : readKey cs = some (key, ':' :: ' ' :: between))
    (hValue :
      plain (readAssignment decode between) =
        some (value, rest)) :
    ∃ hLess, readProperties decode cs =
      andMore [' ', '\x7d'] ⟨.mk key value, rest, hLess⟩
        fun rest _ => readProperties decode rest := by
  rcases eq_some_of_plain hValue with ⟨hLess, hValue⟩
  have hBetween := readKey_shorter cs _ hKey
  refine ⟨?_, ?_⟩
  · simp only [List.length_cons] at hBetween
    omega
  · rw [readProperties, attach_eq_some _ hKey]
    change (readAssignment decode between).bind _ = _
    rw [hValue]
    rfl

theorem readProperties_comma
    {key : String}
    {value : Expr}
    {others : List Property}
    {cs between more rest : List Char}
    (hKey : readKey cs = some (key, ':' :: ' ' :: between))
    (hValue :
      plain (readAssignment decode between) =
        some (value, ',' :: ' ' :: more))
    (hOthers :
      plain (readProperties decode more) =
        some (others, rest)) :
    plain (readProperties decode cs) =
      some (.mk key value :: others, rest) := by
  rcases readProperties_eq hKey hValue with ⟨_, hRead⟩
  rw [hRead]
  apply plain_andMore_comma
  intro _
  exact hOthers

theorem readProperties_last
    {key : String}
    {value : Expr}
    {cs between rest : List Char}
    (hKey : readKey cs = some (key, ':' :: ' ' :: between))
    (hValue :
      plain (readAssignment decode between) =
        some (value, ' ' :: '\x7d' :: rest)) :
    plain (readProperties decode cs) =
      some ([.mk key value], rest) := by
  rcases readProperties_eq hKey hValue with ⟨_, hRead⟩
  rw [hRead]
  exact plain_andMore_last _ (by decide)

end Reader

end Jsx

end TemplateJsx
