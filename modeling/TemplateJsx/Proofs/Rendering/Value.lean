import TemplateJsx.Jsx.Basic
import TemplateJsx.Number.Printer

/-
  Values, environments and rendered nodes. A value is what a
  name stands for while a component is rendered; a node is
  what appears on the page. The nodes of an element are part
  of a value of their own kind, because a rendered element
  may be handed on like any other value.

  Key definitions include:
    * `Rendering.Value`
    * `Rendering.Node`
    * `Rendering.Env.bind`
    * `Rendering.Value.member`
    * `Rendering.Value.truthy`
    * `Rendering.Value.nodes`
    * `Rendering.merge`

  Main declarations:
    * `Rendering.merge_append`
    * `Rendering.truthy_ofCount`
-/

------------------------------------------------------------
-- Values and Nodes
------------------------------------------------------------

namespace TemplateJsx

/- The number that counts something. -/
def Number.ofCount (n : Nat) : Number :=
  (Number.ofQuotient? false n 1).getD (Number.infinity false)

namespace Rendering

mutual

/- What a name or an expression stands for. -/
inductive Value where
  | undefined
  | null
  | boolean (value : Bool)
  | number (value : Number)
  | string (value : String)
  | list (items : List Value)
  | record (fields : List (String × Value))
  | markup (nodes : List Node)

/-
  A node of a page. An attribute without a value stands by
  its name alone.
-/
inductive Node where
  | text (chars : String)
  | element
      (name : Jsx.TagName)
      (attributes : List (String × Option Value))
      (children : List Node)

end

namespace Value

/-
  Member access: the field of a record, the length of a
  list, and `undefined` in all other cases.
-/
def member
    (name : String) : Value → Value
  | .record fields => (fields.lookup name).getD .undefined
  | .list items =>
      if name = "length" then
        .number (.ofCount items.length)
      else
        .undefined
  | _ => .undefined

/- The members along a list of names. -/
def follow
    (v : Value)
    (names : List String) : Value :=
  names.foldl (fun w name => w.member name) v

/-
  Whether a value counts as true. Zeros, what is not a
  number and the empty text do not.
-/
def truthy : Value → Bool
  | .undefined => false
  | .null => false
  | .boolean value => value
  | .number value => value.significand ≠ 0 ∧ ¬ value.IsNaN
  | .string value => value ≠ ""
  | .list _ => true
  | .record _ => true
  | .markup _ => true

mutual

/- The nodes that a value is rendered as. A record has none. -/
def nodes : Value → Option (List Node)
  | .undefined => some []
  | .null => some []
  | .boolean _ => some []
  | .number value => some [.text value.print]
  | .string value => some [.text value]
  | .list items => listNodes items
  | .record _ => none
  | .markup nodes => some nodes

/- The nodes of the items of a list, one after the other. -/
def listNodes : List Value → Option (List Node)
  | [] => some []
  | v :: rest => do
      let first ← v.nodes
      let others ← listNodes rest
      return first ++ others

end

end Value

------------------------------------------------------------
-- Environments
------------------------------------------------------------

/- What the names in scope stand for. -/
abbrev Env := String → Value

namespace Env

/- The environment with one more name. -/
def set
    (env : Env)
    (name : String)
    (value : Value) : Env :=
  fun other => if other = name then value else env other

/-
  The environment with names bound to values in order. A
  name without a value is bound to `undefined`.
-/
def bind
    (env : Env) : List String → List Value → Env
  | [], _ => env
  | name :: names, values =>
      (env.set name (values.headD .undefined)).bind names
        values.tail

/- Binding other names leaves a name as it is. -/
theorem bind_of_not_mem
    {env : Env}
    {name : String}
    {names : List String}
    {values : List Value}
    (hName : name ∉ names) :
    env.bind names values name = env name := by
  induction names generalizing env values with
  | nil => rfl
  | cons other names ih =>
      rw [List.mem_cons, not_or] at hName
      rw [bind, ih hName.2, set, if_neg hName.1]

end Env

------------------------------------------------------------
-- Merging Texts
------------------------------------------------------------

/-
  Put a node in front of others. Empty texts are dropped,
  and a text grows into the text that follows it.
-/
def glue : Node → List Node → List Node
  | .text s, .text t :: rest => .text (s ++ t) :: rest
  | .text s, rest =>
      if s = "" then rest else .text s :: rest
  | node, rest => node :: rest

/- The nodes with adjacent texts merged and none empty. -/
def merge (nodes : List Node) : List Node :=
  nodes.foldr glue []

/- An empty text is dropped. -/
theorem glue_empty (nodes : List Node) :
    glue (.text "") nodes = nodes := by
  cases nodes with
  | nil => rfl
  | cons node rest =>
      cases node with
      | text t => simp [glue]
      | element name attributes children => rfl

/- A text may be put in front piece by piece. -/
theorem glue_text_append
    (s t : String)
    (nodes : List Node) :
    glue (.text (s ++ t)) nodes =
      glue (.text s) (glue (.text t) nodes) := by
  by_cases hEmpty : t = ""
  · rw [hEmpty, String.append_empty, glue_empty]
  · have hBoth : s ++ t ≠ "" := by
      intro h
      exact hEmpty (String.append_eq_empty_iff.mp h).2
    cases nodes with
    | nil => simp [glue, hEmpty, hBoth]
    | cons node rest =>
        cases node with
        | text u => simp [glue, String.append_assoc]
        | element name attributes children =>
            simp [glue, hEmpty, hBoth]

/- Gluing commutes with putting nodes in front of others. -/
theorem foldr_glue
    (node : Node)
    (nodes after : List Node) :
    (glue node nodes).foldr glue after =
      glue node (nodes.foldr glue after) := by
  cases node with
  | element name attributes children => rfl
  | text s =>
      cases nodes with
      | nil =>
          by_cases hEmpty : s = ""
          · rw [hEmpty, glue_empty, glue_empty]
          · simp [glue, hEmpty]
      | cons next rest =>
          cases next with
          | text t =>
              exact glue_text_append s t
                (rest.foldr glue after)
          | element name attributes children =>
              by_cases hEmpty : s = ""
              · rw [hEmpty, glue_empty, glue_empty]
              · simp [glue, hEmpty]

/- Merged nodes are merged with others as they were before. -/
theorem foldr_merge
    (nodes after : List Node) :
    (merge nodes).foldr glue after =
      nodes.foldr glue after := by
  induction nodes with
  | nil => rfl
  | cons node rest ih =>
      have hStep : merge (node :: rest) =
          glue node (merge rest) := rfl
      rw [hStep, foldr_glue, ih]
      rfl

/- Merging is settled by the merged parts. -/
theorem merge_append
    (first second : List Node) :
    merge (first ++ second) =
      merge (merge first ++ merge second) := by
  have hAppend (xs ys : List Node) :
      merge (xs ++ ys) = xs.foldr glue (merge ys) :=
    List.foldr_append
  have hTwice : merge (merge second) = merge second :=
    foldr_merge second []
  rw [hAppend, hAppend, foldr_merge, hTwice]

/- Parts that merge alike may replace each other. -/
theorem merge_append_congr
    {first first' second second' : List Node}
    (hFirst : merge first = merge first')
    (hSecond : merge second = merge second') :
    merge (first ++ second) = merge (first' ++ second') := by
  rw [merge_append, hFirst, hSecond, ← merge_append]

------------------------------------------------------------
-- Counts
------------------------------------------------------------

/- Rounding a quotient does not go below its integer part. -/
theorem div_le_roundDiv
    (num den : Nat) :
    num / den ≤ Number.roundDiv num den := by
  unfold Number.roundDiv
  dsimp only
  split
  · exact Nat.le_refl _
  · split
    · exact Nat.le_succ _
    · exact Nat.le_add_right _ _

/-
  Scaled so that its leading bit has the place `bits`, a
  number is at least the power of two of that place.
-/
theorem two_pow_le_scaled
    {n : Nat}
    (bits : Nat)
    (hCount : n ≠ 0) :
    Nat.pow 2 bits ≤
      n * Nat.pow 2 (-((n.log2 : Int) - bits)).toNat /
        (1 * Nat.pow 2 ((n.log2 : Int) - bits).toNat) := by
  simp only [Nat.pow_eq]
  rw [Nat.one_mul, Nat.le_div_iff_mul_le (Nat.two_pow_pos _),
    ← Nat.pow_add]
  have hPlaces :
      bits + ((n.log2 : Int) - bits).toNat =
        n.log2 + (-((n.log2 : Int) - bits)).toNat := by
    omega
  rw [hPlaces, Nat.pow_add]
  exact Nat.mul_le_mul_right _ (Nat.log2_self_le hCount)

/- A positive count has a full significand. -/
theorem ofQuotient?_of_pos
    {n : Nat}
    (hCount : n ≠ 0) :
    ∃ (sig : Nat) (scale : Int),
      Number.ofQuotient? false n 1 =
          Number.ofScaled? false sig scale ∧
        Nat.pow 2 52 ≤ sig ∧ -52 ≤ scale := by
  have hWide := two_pow_le_scaled 53 hCount
  have hFull := two_pow_le_scaled 52 hCount
  have hOne : Nat.log2 1 = 0 := by decide
  have hEstimate :
      (n.log2 : Int) - (Nat.log2 1 : Int) - 53 =
        (n.log2 : Int) - (53 : Nat) := by
    rw [hOne]
    omega
  have hScale :
      max (-1074) ((n.log2 : Int) - (53 : Nat) + 1) =
        (n.log2 : Int) - (52 : Nat) := by
    omega
  refine ⟨_, (n.log2 : Int) - (52 : Nat), ?_,
    Nat.le_trans hFull (div_le_roundDiv _ _), by omega⟩
  unfold Number.ofQuotient?
  rw [if_neg hCount]
  dsimp only
  rw [hEstimate, if_neg (Nat.not_lt.mpr hWide), hScale]

/- A normal number counts as true. -/
theorem truthy_of_exponent
    {x : Number}
    (hNormal : x.exponent.val ≠ 0)
    (hFinite : x.exponent.val < 2047) :
    (Value.number x).truthy = true := by
  have hZero : x.exponent ≠ 0 := fun h => hNormal (by rw [h]; rfl)
  have hLast : x.exponent ≠ 2047 := fun h => by
    rw [h] at hFinite
    exact absurd hFinite (by decide)
  simp [Value.truthy, Number.significand, Number.IsNaN, hZero,
    hLast]

/- A full significand makes a normal number. -/
theorem truthy_of_ofScaled?
    {sig : Nat}
    {scale : Int}
    {x : Number}
    (hSig : Nat.pow 2 52 ≤ sig)
    (hScale : -52 ≤ scale)
    (hNumber : Number.ofScaled? false sig scale = some x) :
    (Value.number x).truthy = true := by
  have hFull :
      ¬ (if sig = Nat.pow 2 53 then Nat.pow 2 52 else sig) <
        Nat.pow 2 52 := by
    split <;> omega
  have hPlaces :
      ((if sig = Nat.pow 2 53 then scale + 1 else scale)
        + 1075).toNat ≠ 0 := by
    split <;> omega
  unfold Number.ofScaled? at hNumber
  simp only [Option.dite_none_right_eq_some,
    Option.some.injEq] at hNumber
  rcases hNumber with ⟨hBelow, hExact⟩
  have hExponent :
      x.exponent.val =
        ((if sig = Nat.pow 2 53 then scale + 1 else scale)
          + 1075).toNat := by
    rw [← hExact]
    exact if_neg hFull
  rw [if_neg hFull] at hBelow
  apply truthy_of_exponent
  · rw [hExponent]
    exact hPlaces
  · rw [hExponent]
    exact hBelow

/- Exactly the count of nothing does not count as true. -/
theorem truthy_ofCount
    (n : Nat) :
    (Value.number (.ofCount n)).truthy = decide (n ≠ 0) := by
  by_cases hCount : n = 0
  · subst hCount
    decide
  · rcases ofQuotient?_of_pos hCount with
      ⟨sig, scale, hScaled, hSig, hScale⟩
    simp only [ne_eq, hCount, not_false_eq_true, decide_true]
    unfold Number.ofCount
    rw [hScaled]
    cases hNumber : Number.ofScaled? false sig scale with
    | none => decide
    | some x => exact truthy_of_ofScaled? hSig hScale hNumber

end Rendering

end TemplateJsx
