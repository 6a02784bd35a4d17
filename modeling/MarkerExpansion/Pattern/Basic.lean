import MarkerExpansion.Pattern.CharSet

/-!
Patterns for module names: regular expressions over characters, with assertions about the place
between two characters.
-/

namespace MarkerExpansion

/-- A condition on a place in a text that takes no character. -/
inductive Assertion where
  | textStart
  | textEnd
  /-- The start of the text or the place after a line feed. -/
  | lineStart
  /-- The end of the text or the place before a line feed. -/
  | lineEnd
  /-- Exactly one of the two neighbouring characters is part of a word. -/
  | wordBoundary
  | notWordBoundary
  | wordStart
  | wordEnd
  deriving DecidableEq

/-- A pattern, as what it takes from a text. -/
inductive Pattern where
  /-- Takes nothing. -/
  | empty
  /-- Takes one character of `set`. -/
  | char (set : CharSet)
  /-- Takes nothing, at a place where the assertion holds. -/
  | assert (assertion : Assertion)
  | seq (first second : Pattern)
  | alt (left right : Pattern)
  /-- At least `least` and at most `most` times `body` in a row. -/
  | times (body : Pattern) (least : Nat) (most : Option Nat)
  deriving DecidableEq

namespace Assertion

/-- Whether the assertion holds at the place before the character with the given index. -/
def holds (text : Array Char) : Assertion → Nat → Bool
  | .textStart, place => place = 0
  | .textEnd, place => place = text.size
  | .lineStart, place => place = 0 || text[place - 1]? = some '\n'
  | .lineEnd, place => place = text.size || text[place]? = some '\n'
  | .wordBoundary, place => wordBefore place != wordAfter place
  | .notWordBoundary, place => wordBefore place = wordAfter place
  | .wordStart, place => !wordBefore place && wordAfter place
  | .wordEnd, place => wordBefore place && !wordAfter place
where
  wordBefore (place : Nat) : Bool := place ≠ 0 && (text[place - 1]?).any Text.isWord
  wordAfter (place : Nat) : Bool := (text[place]?).any Text.isWord

end Assertion

end MarkerExpansion
