import Mathlib.Data.List.Basic
import TemplateJsx.Jsx.MarkupText
import TemplateJsx.Jsx.Print

/-
  Raw text survives being split and printed. Braces are
  split off before printing and the brackets of tags are
  quoted while printing, and together they amount to one
  rule for each character: a delimiter stands in a container
  of its own, and every other character stands for itself.
  So the printed text can be read from the left, and gives
  back the raw text.

  Key definitions include:
    * `Jsx.IsDelimiter`
    * `Jsx.Piece`
    * `Jsx.Piece.ofChar`
    * `Jsx.readPieces`

  Main declarations:
    * `Jsx.flatMap_source_readPieces`
    * `Jsx.readPieces_flatMap_ofChar`
    * `Jsx.toList_print_textChildren`
    * `Jsx.textChildren_recovered`
-/

------------------------------------------------------------
-- Pieces of Text among Children
------------------------------------------------------------

namespace TemplateJsx

namespace Jsx

/- The characters that may not stand among children. -/
def IsDelimiter (c : Char) : Prop :=
  c = '\x7b' ∨ c = '\x7d' ∨ c = '<' ∨ c = '>'

instance (c : Char) : Decidable (IsDelimiter c) := by
  unfold IsDelimiter
  infer_instance

/-
  What text among children consists of: a character alone,
  or a container with a character in quotes.
-/
inductive Piece where
  | plain (c : Char)
  | contained (c : Char)
  deriving DecidableEq, Repr

namespace Piece

/- The character that a piece stands for. -/
def char : Piece → Char
  | .plain c => c
  | .contained c => c

/- The characters that a piece is written with. -/
def source : Piece → List Char
  | .plain c => [c]
  | .contained c => ['\x7b', '\'', c, '\'', '\x7d']

/- Delimiters need a container. -/
def ofChar (c : Char) : Piece :=
  if IsDelimiter c then .contained c else .plain c

theorem char_ofChar
    (c : Char) :
    (ofChar c).char = c := by
  unfold ofChar
  split
  · rfl
  · rfl

/- Only delimiters get a container. -/
def Fits : Piece → Prop
  | .plain c => ¬ IsDelimiter c
  | .contained c => IsDelimiter c

theorem fits_ofChar
    (c : Char) :
    (ofChar c).Fits := by
  unfold ofChar
  by_cases hDelimiter : IsDelimiter c
  · rw [if_pos hDelimiter]
    exact hDelimiter
  · rw [if_neg hDelimiter]
    exact hDelimiter

end Piece

/- The pieces of text among children, from the left. -/
def readPieces : List Char → List Piece
  | '\x7b' :: '\'' :: c :: '\'' :: '\x7d' :: rest =>
      .contained c :: readPieces rest
  | c :: rest => .plain c :: readPieces rest
  | [] => []

/- Reading divides the text and leaves nothing out. -/
theorem flatMap_source_readPieces
    (cs : List Char) :
    (readPieces cs).flatMap Piece.source = cs := by
  induction cs using readPieces.induct with
  | case1 c rest ih =>
      rw [readPieces, List.flatMap_cons, ih]
      rfl
  | case2 c rest hOther ih =>
      rw [readPieces, List.flatMap_cons, ih]
      · rfl
      · exact hOther
  | case3 => rfl

/- A character is read as the piece it was written as. -/
theorem readPieces_source
    (c : Char)
    (rest : List Char) :
    readPieces ((Piece.ofChar c).source ++ rest) =
      Piece.ofChar c :: readPieces rest := by
  unfold Piece.ofChar
  by_cases hDelimiter : IsDelimiter c
  · rw [if_pos hDelimiter]
    rfl
  · rw [if_neg hDelimiter]
    have hBrace : c ≠ '\x7b' :=
      fun hBrace => hDelimiter (Or.inl hBrace)
    rw [Piece.source, List.singleton_append, readPieces]
    exact fun _ _ hOpens _ => hBrace hOpens

/- Text that is written piece by piece is read so. -/
theorem readPieces_flatMap_ofChar
    (cs : List Char) :
    readPieces
        (cs.flatMap fun c => (Piece.ofChar c).source) =
      cs.map Piece.ofChar := by
  induction cs with
  | nil => rfl
  | cons c cs ih =>
      rw [List.flatMap_cons, readPieces_source, ih,
        List.map_cons]

------------------------------------------------------------
-- Printed Text
------------------------------------------------------------

/- A brace is printed in a container. -/
theorem toList_print_braceChild
    {c : Char}
    (hBrace : isBrace c = true) :
    (braceChild c).print.toList = (Piece.ofChar c).source := by
  unfold isBrace at hBrace
  rw [Bool.or_eq_true, beq_iff_eq, beq_iff_eq] at hBrace
  rcases hBrace with rfl | rfl
  · decide
  · decide

/- Of the delimiters, all but the braces are brackets. -/
theorem isDelimiter_iff_of_not_isBrace
    {c : Char}
    (hBrace : isBrace c = false) :
    IsDelimiter c ↔ c = '<' ∨ c = '>' := by
  unfold isBrace at hBrace
  rw [Bool.or_eq_false_iff, beq_eq_false_iff_ne,
    beq_eq_false_iff_ne] at hBrace
  unfold IsDelimiter
  rw [or_iff_right hBrace.1, or_iff_right hBrace.2]

/- Text without braces is printed piece by piece. -/
theorem toList_print_text
    {cs : List Char}
    (hPlain : ∀ c ∈ cs, isBrace c = false) :
    (Child.text (String.ofList cs)).print.toList =
      cs.flatMap fun c => (Piece.ofChar c).source := by
  rw [Child.print, printText, String.toList_ofList,
    String.toList_ofList]
  refine List.flatMap_congr fun c hMember => ?_
  have hDelimiter :=
    isDelimiter_iff_of_not_isBrace (hPlain c hMember)
  unfold Piece.ofChar
  by_cases hBracket : c = '<' ∨ c = '>'
  · rw [if_pos hBracket, if_pos (hDelimiter.mpr hBracket)]
    rfl
  · rw [if_neg hBracket, if_neg (mt hDelimiter.mp hBracket)]
    rfl

/- So is a run, which holds its characters in reverse. -/
theorem toList_print_run
    {run : List Char}
    (hRun : ∀ c ∈ run, isBrace c = false) :
    (Child.text (String.ofList run.reverse)).print.toList =
      run.reverse.flatMap fun c => (Piece.ofChar c).source :=
  toList_print_text fun c hMember =>
    hRun c (List.mem_reverse.mp hMember)

/-
  The text that is printed for the children of a text. The
  induction runs over what is left of the text, while the
  run that it continues holds no braces.
-/
theorem toList_print_textChildrenFrom
    (run cs : List Char)
    (hRun : ∀ c ∈ run, isBrace c = false) :
    (Text.concatAll
        ((textChildrenFrom run cs).map Child.print)).toList =
      (run.reverse ++ cs).flatMap
        fun c => (Piece.ofChar c).source := by
  induction cs generalizing run with
  | nil =>
      rw [textChildrenFrom, List.append_nil,
        ← toList_print_run hRun]
      simp [Text.concatAll]
  | cons c cs ih =>
      rw [textChildrenFrom]
      by_cases hBrace : isBrace c = true
      · have hRest := ih [] (by simp)
        rw [if_pos hBrace]
        simp only [List.map_cons, Text.concatAll,
          String.toList_append, hRest, toList_print_run hRun,
          toList_print_braceChild hBrace,
          List.flatMap_append, List.flatMap_cons,
          List.reverse_nil, List.nil_append]
      · have hLonger : ∀ d ∈ c :: run, isBrace d = false := by
          intro d hMember
          rcases List.mem_cons.mp hMember with rfl | hMember
          · exact Bool.eq_false_iff.mpr hBrace
          · exact hRun d hMember
        rw [if_neg hBrace, ih (c :: run) hLonger,
          List.reverse_cons, List.append_assoc,
          List.singleton_append]

/-
  Splitting and printing leave every character alone but the
  delimiters, each of which gets a container.
-/
theorem toList_print_textChildren
    (text : String) :
    (Text.concatAll
        ((textChildren text).map Child.print)).toList =
      text.toList.flatMap
        fun c => (Piece.ofChar c).source :=
  toList_print_textChildrenFrom [] text.toList (by simp)

/-
  Text among children gives back the raw text: what is
  printed for it divides into pieces that stand for its
  characters. No delimiter stands outside a container, and
  nothing else stands inside one.
-/
theorem textChildren_recovered
    (text : String) :
    let printed :=
      Text.concatAll ((textChildren text).map Child.print)
    let pieces := readPieces printed.toList
    pieces.flatMap Piece.source = printed.toList ∧
      String.ofList (pieces.map Piece.char) = text ∧
      (∀ c, .plain c ∈ pieces → ¬ IsDelimiter c) ∧
      ∀ c, .contained c ∈ pieces → IsDelimiter c := by
  intro printed pieces
  have hPieces : pieces = text.toList.map Piece.ofChar := by
    rw [← readPieces_flatMap_ofChar,
      ← toList_print_textChildren]
  have hFits : ∀ piece ∈ pieces, piece.Fits := by
    intro piece hMember
    rw [hPieces] at hMember
    rcases List.mem_map.mp hMember with ⟨c, _, rfl⟩
    exact Piece.fits_ofChar c
  refine ⟨flatMap_source_readPieces _, ?_,
    fun c => hFits (.plain c), fun c => hFits (.contained c)⟩
  have hChars : Piece.char ∘ Piece.ofChar = id :=
    funext Piece.char_ofChar
  rw [hPieces, List.map_map, hChars, List.map_id,
    String.ofList_toList]

/- Delimiters in quotes are contained one by one. -/
example :
    Text.concatAll
        ((textChildren "\x7b'<'\x7d").map Child.print) =
      "\x7b'\x7b'\x7d'\x7b'<'\x7d'\x7b'\x7d'\x7d" := by
  decide

end Jsx

end TemplateJsx
