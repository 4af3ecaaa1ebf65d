import TemplateJsx.Document.Node
import TemplateJsx.Document.Timestamp
import TemplateJsx.Number.Integer
import TemplateJsx.Text.Base64

/-
  This file defines the values that scalars stand for. A
  quoted scalar is a text; a plain one may be nothing, a
  truth value, a number or a timestamp by its spelling. A tag
  asks for one of these, for a text written in base 64, or
  makes a text of what is written.

  Key definitions include:
    * `Document.Scalar`
    * `Document.Scalar.tag`
    * `Document.Scalar.ofPlain`
    * `Document.Scalar.Misfit`
    * `Document.Scalar.resolve`
    * `Document.ScalarStyle.tagOf`
-/

------------------------------------------------------------
-- Values of Scalars
------------------------------------------------------------

namespace TemplateJsx

namespace Document

/- The value of a scalar. -/
inductive Scalar where
  | null
  | boolean (value : Bool)
  | integer (value : Int)
  | number (value : Number)
  | timestamp
  | text (value : String)
  deriving DecidableEq, Repr

namespace Scalar

/- The name of the type of a value. -/
def tag : Scalar → String
  | .null => Node.nullTag
  | .boolean _ => "!!bool"
  | .integer _ => "!!int"
  | .number _ => "!!float"
  | .timestamp => "!!timestamp"
  | .text _ => "!!str"

------------------------------------------------------------
-- Spellings
------------------------------------------------------------

/- The words that stand for a value. -/
def words : List (String × Scalar) :=
  nullWords.map (fun word => (word, .null))
    ++ ["true", "True", "TRUE"].map
      (fun word => (word, .boolean true))
    ++ ["false", "False", "FALSE"].map
      (fun word => (word, .boolean false))
    ++ [".nan", ".NaN", ".NAN"].map
      (fun word => (word, .number .nan))
    ++ [".inf", ".Inf", ".INF", "+.inf", "+.Inf", "+.INF"].map
      (fun word => (word, .number (.infinity false)))
    ++ ["-.inf", "-.Inf", "-.INF"].map
      (fun word => (word, .number (.infinity true)))

/- Whether an exponent is spelled here, or nothing. -/
def isExponent : List Char → Bool
  | [] => true
  | mark :: rest =>
      let digits := (Number.readSign rest).2
      (mark == 'e' || mark == 'E')
        && !digits.isEmpty && digits.all Char.isDigit

/-
  Whether a text is spelled as a decimal number: digits with
  at most one point, and perhaps an exponent.
-/
def isDecimal (cs : List Char) : Bool :=
  let cs := (Number.readSign cs).2
  let whole := cs.takeWhile Char.isDigit
  match cs.dropWhile Char.isDigit with
  | '.' :: rest =>
      let places := rest.takeWhile Char.isDigit
      (!whole.isEmpty || !places.isEmpty)
        && isExponent (rest.dropWhile Char.isDigit)
  | rest => !whole.isEmpty && isExponent rest

/- A decimal number. -/
def decimal? (cs : List Char) : Option Scalar :=
  if isDecimal cs then
    (Number.ofText? (String.ofList cs)).map .number
  else
    none

/- An integer in the base that its mark names. -/
def integer? (cs : List Char) : Option Scalar :=
  ((Integer.signed? Integer.readMarked cs).or
    (Integer.unsigned? Integer.readMarked cs)).map .integer

/-
  A binary or octal integer with its sign after the mark, or
  a minus sign both before the mark and taken for it.
-/
def markedInteger? (cs : List Char) : Option Scalar :=
  let read (base : Nat) (digits : List Char) :=
    ((Integer.signed? (Integer.readSome base) digits).or
      (Integer.unsigned? (Integer.readSome base) digits)).map
        Scalar.integer
  match cs with
  | '0' :: 'b' :: digits => read 2 digits
  | '-' :: '0' :: 'b' :: digits => read 2 ('-' :: digits)
  | '0' :: 'o' :: digits => read 8 digits
  | '-' :: '0' :: 'o' :: digits => read 8 ('-' :: digits)
  | _ => none

/-
  The value of a text that starts like a number, a timestamp
  only where one may stand. Underscores do not count in
  numbers.
-/
def ofNumeral
    (timestamps : Bool)
    (text : String) : Scalar :=
  if timestamps && isTimestamp text then
    .timestamp
  else
    let cs := text.toList.filter (· != '_')
    ((integer? cs).or ((decimal? cs).or (markedInteger? cs))).getD
      (.text text)

/- The value that a text spells. -/
def ofSpelling
    (timestamps : Bool)
    (text : String) : Scalar :=
  match words.lookup text with
  | some value => value
  | none =>
      match text.toList with
      | [] => .null
      | '.' :: _ =>
          ((Number.ofText? text).map .number).getD (.text text)
      | c :: _ =>
          if c.isDigit ∨ c = '+' ∨ c = '-' then
            ofNumeral timestamps text
          else
            .text text

/- The value of a plain scalar. -/
def ofPlain (text : String) : Scalar :=
  ofSpelling true text

/- The tags that ask for a value by its spelling. -/
def spelledTags : List String :=
  [Node.nullTag, "!!bool", "!!int", "!!float", "!!timestamp"]

/- The tag of texts that are written in base 64. -/
def binaryTag : String := "!!binary"

/- Why a text does not fit the tag of its scalar. -/
inductive Misfit where
  /- It spells a value of another type. -/
  | spells (tag : String)
  /- It is not in base 64. -/
  | notBase64
  deriving DecidableEq, Repr

/-
  The value of a text with a tag. If the tag asks for a value
  by its spelling, the text has to spell it; an integer is a
  number, too.
-/
def ofTagged
    (tag : String)
    (text : String) : Except Misfit Scalar :=
  if tag ∈ spelledTags then
    let value := ofSpelling (tag == "!!timestamp") text
    match value with
    | .integer _ =>
        if tag = "!!int" ∨ tag = "!!float" then
          .ok value
        else
          .error (.spells value.tag)
    | _ =>
        if value.tag = tag then
          .ok value
        else
          .error (.spells value.tag)
  else if tag = binaryTag then
    match Text.ofBase64? text with
    | some decoded => .ok (.text decoded)
    | none => .error .notBase64
  else
    .ok (.text text)

/-
  The value of a scalar by its style, unless its text does
  not fit its tag.
-/
def resolve
    (style : ScalarStyle)
    (text : String) : Except Misfit Scalar :=
  match style with
  | .plain => .ok (ofPlain text)
  | .quoted => .ok (.text text)
  | .tagged tag => ofTagged tag text

end Scalar

/- The plain text that merges mappings where it is a key. -/
def mergeKey : String := "<<"

/- The tag of a scalar with a value. -/
def ScalarStyle.tagOf
    (style : ScalarStyle)
    (text : String)
    (value : Scalar) : String :=
  match style with
  | .plain => if text = mergeKey then "!!merge" else value.tag
  | .quoted => value.tag
  | .tagged tag => tag

end Document

end TemplateJsx
