import TemplateJsx.Jsx.Print
import TemplateJsx.Proofs.Numeral
import TemplateJsx.Proofs.Quoting

/-
  The grammar of expressions, and the proof that printing
  follows it. The grammar knows nothing of the printer's
  numeric precedences: it is stated by seven kinds of
  phrases, from assignments down to primaries, and says
  which texts are derived with which tree. A number may be
  written with any digits that round to it.

  Key definitions include:
    * `Jsx.Phrase`
    * `Jsx.SpellsNumber`
    * `Jsx.Derives`
    * `Jsx.Regular`
    * `Jsx.Expr.phrase`

  Main declarations:
    * `Jsx.Derives.loosen`
    * `Jsx.Derives.enclose`
    * `Jsx.derives_phrase`
    * `Jsx.print_derives`
-/

------------------------------------------------------------
-- The Grammar
------------------------------------------------------------

namespace TemplateJsx

namespace Jsx

/- The kinds of phrases, from the loosest to the tightest. -/
inductive Phrase where
  | assignment
  | choice
  | disjunction
  | conjunction
  | sum
  | chain
  | primary
  deriving DecidableEq, Repr

namespace Phrase

/- The kind of phrase that every phrase may consist of. -/
def tighter? : Phrase → Option Phrase
  | .assignment => some .choice
  | .choice => some .disjunction
  | .disjunction => some .conjunction
  | .conjunction => some .sum
  | .sum => some .chain
  | .chain => some .primary
  | .primary => none

/- The place of a kind of phrase in their order. -/
def rank : Phrase → Nat
  | .assignment => 0
  | .choice => 1
  | .disjunction => 2
  | .conjunction => 3
  | .sum => 4
  | .chain => 5
  | .primary => 6

/- The precedence of what is printed as such a phrase. -/
def precedence : Phrase → Nat
  | .assignment => Precedence.arrow
  | .choice => Precedence.conditional
  | .disjunction => Precedence.or
  | .conjunction => Precedence.and
  | .sum => Precedence.additive
  | .chain => Precedence.member
  | .primary => Precedence.member

/-
  A place that requires the precedence `least` takes
  unenclosed only what may stand for a phrase of this kind.
-/
def Fits
    (p : Phrase)
    (least : Nat) : Prop :=
  ∀ q : Phrase, least ≤ q.precedence → p.rank ≤ q.rank

/- All kinds of phrases. -/
def all : List Phrase :=
  [.assignment, .choice, .disjunction, .conjunction, .sum,
    .chain, .primary]

theorem mem_all (p : Phrase) : p ∈ all := by
  cases p <;> decide

instance (p : Phrase) (least : Nat) :
    Decidable (p.Fits least) :=
  decidable_of_iff
    (∀ q ∈ all, least ≤ q.precedence → p.rank ≤ q.rank)
    ⟨fun h q => h q (mem_all q), fun h q _ => h q⟩

end Phrase

/- The ways to write the key of a property. -/
inductive SpellsKey : String → String → Prop
  | name {key : String} :
      Text.IsLegalName key → SpellsKey key key
  | quoted {literal key : String} :
      Quotes literal key → SpellsKey literal key

/-
  The ways to write a number: a numeral of it, or a word if
  it is not finite.
-/
inductive SpellsNumber : String → Number → Prop
  | numeral {literal : String} {value : Number} :
      value.HasNumeral literal → SpellsNumber literal value
  | nan {value : Number} :
      value.IsNaN → SpellsNumber "NaN" value
  | infinite {value : Number} :
      ¬ value.IsFinite →
      ¬ value.IsNaN →
      SpellsNumber (if value.negative then "-Inf" else "+Inf")
        value

mutual

/-
  A text is a phrase of the given kind, with the given tree.
  Parentheses leave no trace in the tree. Markup counts as a
  primary as a whole.
-/
inductive Derives : Phrase → String → Expr → Prop
  | tighter {p q : Phrase} {s : String} {e : Expr} :
      p.tighter? = some q →
      Derives q s e →
      Derives p s e
  | arrow {params : List String} {s : String} {body : Expr} :
      Derives .assignment s body →
      Derives .assignment
        ("(" ++ Text.joinWith ", " params ++ ") => " ++ s)
        (.arrow params body)
  | conditional {t c a : String}
      {test consequent alternate : Expr} :
      Derives .disjunction t test →
      Derives .assignment c consequent →
      Derives .assignment a alternate →
      Derives .choice (t ++ " ? " ++ c ++ " : " ++ a)
        (.conditional test consequent alternate)
  | or {l r : String} {left right : Expr} :
      Derives .disjunction l left →
      Derives .conjunction r right →
      Derives .disjunction (l ++ " " ++ "||" ++ " " ++ r)
        (.binary .or left right)
  | and {l r : String} {left right : Expr} :
      Derives .conjunction l left →
      Derives .sum r right →
      Derives .conjunction (l ++ " " ++ "&&" ++ " " ++ r)
        (.binary .and left right)
  | add {l r : String} {left right : Expr} :
      Derives .sum l left →
      Derives .chain r right →
      Derives .sum (l ++ " " ++ "+" ++ " " ++ r)
        (.binary .add left right)
  | name_access {s property : String} {object : Expr} :
      Derives .chain s object →
      Text.IsLegalName property →
      Derives .chain (s ++ ("." ++ property))
        (.member object property)
  | quoted_access {s literal property : String}
      {object : Expr} :
      Derives .chain s object →
      Quotes literal property →
      Derives .chain (s ++ ("[" ++ literal ++ "]"))
        (.member object property)
  | call {s : String} {texts : List String} {callee : Expr}
      {arguments : List Expr} :
      Derives .chain s callee →
      DerivesAll texts arguments →
      Derives .chain
        (s ++ "(" ++ Text.joinWith ", " texts ++ ")")
        (.call callee arguments)
  | identifier {name : String} :
      Derives .primary name (.identifier name)
  | string {literal value : String} :
      Quotes literal value →
      Derives .primary literal (.string value)
  | number {literal : String} {value : Number} :
      SpellsNumber literal value →
      Derives .primary literal (.number value)
  | true :
      Derives .primary "true" (.boolean true)
  | false :
      Derives .primary "false" (.boolean false)
  | null :
      Derives .primary "null" .null
  | markup {markup : Markup} :
      Derives .primary markup.print (.markup markup)
  | empty_object :
      Derives .primary "\x7b\x7d" (.object [])
  | object {texts : List String}
      {property : Property} {properties : List Property} :
      DerivesProperties texts (property :: properties) →
      Derives .primary
        ("\x7b " ++ Text.joinWith ", " texts ++ " \x7d")
        (.object (property :: properties))
  | parenthesized {s : String} {e : Expr} :
      Derives .assignment s e →
      Derives .primary ("(" ++ s ++ ")") e

/- Texts that are assignments, with their trees. -/
inductive DerivesAll : List String → List Expr → Prop
  | nil : DerivesAll [] []
  | cons {s : String} {texts : List String}
      {e : Expr} {rest : List Expr} :
      Derives .assignment s e →
      DerivesAll texts rest →
      DerivesAll (s :: texts) (e :: rest)

/- Texts that are keys with values, with their trees. -/
inductive DerivesProperties :
    List String → List Property → Prop
  | nil : DerivesProperties [] []
  | cons {k s : String} {texts : List String}
      {key : String} {value : Expr} {rest : List Property} :
      SpellsKey k key →
      Derives .assignment s value →
      DerivesProperties texts rest →
      DerivesProperties ((k ++ ": " ++ s) :: texts)
        (.mk key value :: rest)

end

------------------------------------------------------------
-- Regular Trees
------------------------------------------------------------

/-
  The trees that have a printed form in the grammar: every
  operator has a sign, no key is empty, and no expression is
  left empty. What stands inside markup is not restricted.
-/
inductive Regular : Expr → Prop
  | identifier (name : String) :
      Regular (.identifier name)
  | string (value : String) :
      Regular (.string value)
  | number (value : Number) :
      Regular (.number value)
  | boolean (value : Bool) :
      Regular (.boolean value)
  | null :
      Regular .null
  | member {object : Expr} (property : String) :
      Regular object →
      Regular (.member object property)
  | call {callee : Expr} {arguments : List Expr} :
      Regular callee →
      (∀ e ∈ arguments, Regular e) →
      Regular (.call callee arguments)
  | object {properties : List Property} :
      (∀ key value, .mk key value ∈ properties →
        key ≠ "") →
      (∀ key value, .mk key value ∈ properties →
        Regular value) →
      Regular (.object properties)
  | binary {op : BinaryOp} {left right : Expr} :
      op = .add ∨ op = .and ∨ op = .or →
      Regular left →
      Regular right →
      Regular (.binary op left right)
  | conditional {test consequent alternate : Expr} :
      Regular test →
      Regular consequent →
      Regular alternate →
      Regular (.conditional test consequent alternate)
  | arrow (params : List String) {body : Expr} :
      Regular body →
      Regular (.arrow params body)
  | markup (markup : Markup) :
      Regular (.markup markup)

------------------------------------------------------------
-- Moving between Kinds of Phrases
------------------------------------------------------------

/- Kinds of phrases are told apart by their rank. -/
theorem Phrase.rank_injective
    {p q : Phrase}
    (hRank : p.rank = q.rank) :
    p = q := by
  cases p <;> cases q <;> simp_all [Phrase.rank]

/- Only a primary has no tighter kind of phrase. -/
theorem Phrase.exists_tighter
    {p q : Phrase}
    (hRank : p.rank < q.rank) :
    ∃ t, p.tighter? = some t ∧ t.rank = p.rank + 1 := by
  cases p with
  | primary => cases q <;> simp [Phrase.rank] at hRank
  | _ => exact ⟨_, rfl, rfl⟩

/- A phrase is also a phrase of every looser kind. -/
theorem Derives.loosen
    {p q : Phrase}
    {s : String}
    {e : Expr}
    (h : Derives q s e)
    (hRank : p.rank ≤ q.rank) :
    Derives p s e := by
  -- Induction on how far `p` lies above `q`.
  rcases Nat.exists_eq_add_of_le hRank with ⟨n, hDistance⟩
  induction n generalizing p with
  | zero =>
      rw [Phrase.rank_injective hDistance] at h
      exact h
  | succ n ih =>
      rcases Phrase.exists_tighter
          (p := p) (q := q) (by omega) with
        ⟨t, hTighter, hNext⟩
      exact .tighter hTighter
        (ih (by omega) (by omega))

/- The kind of phrase that a tree is printed as. -/
def Expr.phrase : Expr → Phrase
  | .binary .add _ _ => .sum
  | .binary .and _ _ => .conjunction
  | .binary .or _ _ => .disjunction
  | .conditional _ _ _ => .choice
  | .arrow _ _ => .assignment
  | .member _ _ => .chain
  | .call _ _ => .chain
  | _ => .primary

/- The printer's precedence agrees with the kind of phrase. -/
theorem Regular.precedence_eq
    {e : Expr}
    (h : Regular e) :
    e.precedence = e.phrase.precedence := by
  cases h with
  | binary hOp _ _ =>
      rcases hOp with rfl | rfl | rfl <;> rfl
  | _ => rfl

/-
  An operand is put in parentheses exactly where its own
  kind of phrase may not stand.
-/
theorem Derives.enclose
    {p : Phrase}
    {least : Nat}
    {e : Expr}
    (hRegular : Regular e)
    (hOwn : Derives e.phrase e.print e)
    (hFits : p.Fits least) :
    Derives p (enclose least e.precedence e.print) e := by
  unfold Jsx.enclose
  by_cases hLow : e.precedence < least
  · rw [if_pos hLow]
    have hInner : Derives .assignment e.print e :=
      hOwn.loosen (Nat.zero_le _)
    exact (Derives.parenthesized hInner).loosen
      (by cases p <;> decide)
  · rw [if_neg hLow]
    apply hOwn.loosen
    apply hFits
    rw [← hRegular.precedence_eq]
    exact Nat.le_of_not_lt hLow

------------------------------------------------------------
-- Printing Follows the Grammar
------------------------------------------------------------

/- Arguments are printed as assignments. -/
theorem derivesAll_printArguments
    {arguments : List Expr}
    (hRegular : ∀ e ∈ arguments, Regular e)
    (hOwn : ∀ e ∈ arguments, Derives e.phrase e.print e) :
    DerivesAll (printArguments arguments) arguments := by
  induction arguments with
  | nil =>
      rw [printArguments]
      exact .nil
  | cons e rest ih =>
      rw [printArguments]
      refine .cons ?_ ?_
      · exact (hOwn e List.mem_cons_self).enclose
          (hRegular e List.mem_cons_self)
          (by decide)
      · exact ih
          (fun x hx => hRegular x (List.mem_cons_of_mem e hx))
          (fun x hx => hOwn x (List.mem_cons_of_mem e hx))

/- A key that is not empty is printed as a key. -/
theorem spellsKey_nameOrQuoted
    {key : String}
    (hKey : key ≠ "") :
    SpellsKey (nameOrQuoted false key) key := by
  rcases nameOrQuoted_eq hKey with ⟨hName, hSame⟩ | hQuoted
  · rw [hSame]
    exact .name hName
  · rw [hQuoted]
    exact .quoted (quotes_singleQuoted key)

/- A number is printed as one. -/
theorem spellsNumber_print
    (value : Number) :
    SpellsNumber value.print value := by
  by_cases hFinite : value.IsFinite
  · exact .numeral (Number.hasNumeral_print hFinite)
  · unfold Number.print
    by_cases hNaN : value.IsNaN
    · rw [if_pos hNaN]
      exact .nan hNaN
    · rw [if_neg hNaN, if_neg hFinite]
      exact .infinite hFinite hNaN

/- Properties are printed as keys with assignments. -/
theorem derivesProperties_printProperties
    {properties : List Property}
    (hKeys : ∀ key value, .mk key value ∈ properties →
      key ≠ "")
    (hRegular : ∀ key value, .mk key value ∈ properties →
      Regular value)
    (hOwn : ∀ key value, .mk key value ∈ properties →
      Derives value.phrase value.print value) :
    DerivesProperties (printProperties properties)
      properties := by
  induction properties with
  | nil =>
      rw [printProperties]
      exact .nil
  | cons property rest ih =>
      rcases property with ⟨key, value⟩
      rw [printProperties, Property.print]
      have hHere : Property.mk key value ∈
          Property.mk key value :: rest :=
        List.mem_cons_self
      refine .cons ?_ ?_ ?_
      · exact spellsKey_nameOrQuoted (hKeys key value hHere)
      · exact (hOwn key value hHere).enclose
          (hRegular key value hHere) (by decide)
      · exact ih
          (fun k v h => hKeys k v (List.mem_cons_of_mem _ h))
          (fun k v h =>
            hRegular k v (List.mem_cons_of_mem _ h))
          (fun k v h => hOwn k v (List.mem_cons_of_mem _ h))

/-
  The body of an arrow function is an assignment, whether or
  not it gets the parentheses that keep it from being read
  as a block.
-/
theorem derives_printBody
    {body : Expr}
    {s : String}
    (h : Derives .assignment s body) :
    Derives .assignment (printBody body s) body := by
  unfold printBody
  split
  · exact (Derives.parenthesized h).loosen (by decide)
  · exact h

/-
  Every tree is printed as a phrase of its own kind. The
  induction follows the tree; each operand is enclosed as
  its place requires.
-/
theorem derives_phrase
    {e : Expr}
    (hRegular : Regular e) :
    Derives e.phrase e.print e := by
  induction hRegular with
  | identifier name => exact .identifier
  | string value => exact .string (quotes_singleQuoted value)
  | number value => exact .number (spellsNumber_print value)
  | boolean value =>
      cases value with
      | true => exact .true
      | false => exact .false
  | null => exact .null
  | @member object property hObject ih =>
      have hBase :
          Derives .chain
            (enclose Precedence.member object.precedence
              object.print)
            object :=
        ih.enclose hObject (by decide)
      rw [Expr.print, printAccess]
      by_cases hName : Text.IsLegalName property
      · rw [if_pos hName]
        exact .name_access hBase hName
      · rw [if_neg hName]
        exact .quoted_access hBase
          (quotes_singleQuoted property)
  | call hCallee hArguments ihCallee ihArguments =>
      rw [Expr.print]
      exact .call
        (ihCallee.enclose hCallee (by decide))
        (derivesAll_printArguments hArguments ihArguments)
  | @object properties hKeys hValues ih =>
      have hAll := derivesProperties_printProperties
        hKeys hValues ih
      cases properties with
      | nil => exact .empty_object
      | cons property rest =>
          simp only [Expr.print]
          exact .object hAll
  | binary hOp hLeft hRight ihLeft ihRight =>
      rw [Expr.print]
      rcases hOp with rfl | rfl | rfl
      · exact .add
          (ihLeft.enclose hLeft (by decide))
          (ihRight.enclose hRight (by decide))
      · exact .and
          (ihLeft.enclose hLeft (by decide))
          (ihRight.enclose hRight (by decide))
      · exact .or
          (ihLeft.enclose hLeft (by decide))
          (ihRight.enclose hRight (by decide))
  | conditional hTest hThen hElse ihTest ihThen ihElse =>
      rw [Expr.print]
      exact .conditional
        (ihTest.enclose hTest (by decide))
        (ihThen.enclose hThen (by decide))
        (ihElse.enclose hElse (by decide))
  | arrow params hBody ih =>
      rw [Expr.print]
      exact .arrow
        (derives_printBody (ih.enclose hBody (by decide)))
  | markup markup =>
      rw [Expr.print]
      exact .markup

/-
  Parentheses are right for precedence: the printed text of
  a tree is an expression of the grammar, and its tree is
  the tree that was printed.
-/
theorem print_derives
    {e : Expr}
    (hRegular : Regular e) :
    Derives .assignment e.print e :=
  (derives_phrase hRegular).loosen (Nat.zero_le _)

/-
  A function as callee, a choice as test and a sum as right
  operand keep their parentheses.
-/
theorem print_derives_nested :
    ∃ e : Expr,
      e.print =
          "((x) => x || y)(a && b) + (c + (d ? e : f))" ∧
        Regular e ∧ Derives .assignment e.print e := by
  let callee : Expr :=
    .arrow ["x"]
      (.binary .or (.identifier "x") (.identifier "y"))
  let argument : Expr :=
    .binary .and (.identifier "a") (.identifier "b")
  let choice : Expr :=
    .conditional (.identifier "d") (.identifier "e")
      (.identifier "f")
  have hRegular :
      Regular
        (.binary .add (.call callee [argument])
          (.binary .add (.identifier "c") choice)) := by
    refine .binary (.inl rfl) (.call ?_ ?_) ?_
    · exact .arrow _
        (.binary (.inr (.inr rfl)) (.identifier _)
          (.identifier _))
    · intro e he
      rw [List.mem_singleton.mp he]
      exact .binary (.inr (.inl rfl)) (.identifier _)
        (.identifier _)
    · exact .binary (.inl rfl) (.identifier _)
        (.conditional (.identifier _) (.identifier _)
          (.identifier _))
  exact ⟨_, by decide, hRegular, print_derives hRegular⟩

end Jsx

end TemplateJsx
