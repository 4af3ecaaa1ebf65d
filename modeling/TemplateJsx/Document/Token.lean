import TemplateJsx.Document.ScalarText

/-
  This file defines the tokens of a document's text. Where
  the notation uses indentation, tokens mark the start and
  the end of what is indented.

  Key definitions include:
    * `Document.TokenKind`
    * `Document.KeyChance`
    * `Document.Token`
-/

------------------------------------------------------------
-- Tokens
------------------------------------------------------------

namespace TemplateJsx

namespace Document

/- The kinds of token. -/
inductive TokenKind where
  | streamStart
  | streamEnd
  | versionDirective (major minor : Nat)
  | tagDirective (handle start : String)
  | documentStart
  | documentEnd
  | blockSequenceStart
  | blockMappingStart
  | blockEnd
  | flowSequenceStart
  | flowSequenceEnd
  | flowMappingStart
  | flowMappingEnd
  | blockEntry
  | flowEntry
  | key
  | value
  | reference (name : String)
  | anchor (name : String)
  | tag (handle rest : String)
  | scalar (style : ScalarStyle) (text : String)
  deriving DecidableEq, Repr

/-
  Whether a token may turn out to start a key, once a colon
  follows, or even has to.
-/
inductive KeyChance where
  | none
  | possible
  | required
  deriving DecidableEq, Repr

/- A token with the positions before and after it. -/
structure Token where
  kind : TokenKind
  start : Mark
  stop : Mark
  chance : KeyChance
  deriving DecidableEq, Repr

instance : Inhabited Token :=
  ⟨⟨.streamEnd, .start, .start, .none⟩⟩

end Document

end TemplateJsx
