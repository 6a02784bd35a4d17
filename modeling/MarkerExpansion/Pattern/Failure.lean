/-!
Why a text is no pattern, and the report that shows where.

A failure points to a part of the pattern text. The report repeats the text with the offending
part underlined; a text of several lines is shown with line numbers.
-/

namespace MarkerExpansion.Pattern

/-- A part of a pattern text, from the character numbered `start` up to but not including `stop`.
An empty part points to the place itself. -/
structure Extent where
  start : Nat
  stop : Nat
  deriving DecidableEq

/-- The empty part at a place. -/
def Extent.at (place : Nat) : Extent := ⟨place, place⟩

/-- The part that is one character. -/
def Extent.char (place : Nat) : Extent := ⟨place, place + 1⟩

inductive Reason where
  | groupUnclosed
  | groupUnopened
  | groupNameEmpty
  | groupNameInvalid
  | groupNameUnclosed
  | groupNameRepeated
  | lookAround
  | flagUnrecognized
  | flagRepeated
  | flagsUnclosed
  | negationRepeated
  | negationDangling
  | classUnclosed
  | classRangeReversed
  | classRangeBoundary
  | classEscape
  | repetitionMissing
  | repetitionUnclosed
  | repetitionReversed
  | repetitionCountEmpty
  | repetitionCountTooLarge
  | escapeUnfinished
  | escapeUnrecognized
  | hexEmpty
  | hexDigitInvalid
  | hexNotScalar
  | backreference
  deriving DecidableEq

def Reason.message : Reason → String
  | .groupUnclosed => "unclosed group"
  | .groupUnopened => "unopened group"
  | .groupNameEmpty => "empty capture group name"
  | .groupNameInvalid => "invalid capture group character"
  | .groupNameUnclosed => "unclosed capture group name"
  | .groupNameRepeated => "duplicate capture group name"
  | .lookAround => "look-around, including look-ahead and look-behind, is not supported"
  | .flagUnrecognized => "unrecognized flag"
  | .flagRepeated => "duplicate flag"
  | .flagsUnclosed => "expected flag but got end of regex"
  | .negationRepeated => "flag negation operator repeated"
  | .negationDangling => "dangling flag negation operator"
  | .classUnclosed => "unclosed character class"
  | .classRangeReversed => "invalid character class range, the start must be <= the end"
  | .classRangeBoundary => "invalid range boundary, must be a literal"
  | .classEscape => "invalid escape sequence found in character class"
  | .repetitionMissing => "repetition operator missing expression"
  | .repetitionUnclosed => "unclosed counted repetition"
  | .repetitionReversed => "invalid repetition count range, the start must be <= the end"
  | .repetitionCountEmpty => "repetition quantifier expects a valid decimal"
  | .repetitionCountTooLarge => "decimal literal invalid"
  | .escapeUnfinished => "incomplete escape sequence, reached end of pattern prematurely"
  | .escapeUnrecognized => "unrecognized escape sequence"
  | .hexEmpty => "hexadecimal literal empty"
  | .hexDigitInvalid => "invalid hexadecimal digit"
  | .hexNotScalar => "hexadecimal literal is not a Unicode scalar value"
  | .backreference => "backreferences are not supported"

/-- The first fault of a pattern text, found from left to right. -/
structure Failure where
  reason : Reason
  /-- The part at fault. -/
  extent : Extent
  /-- An earlier part that the one at fault repeats. -/
  earlier : Option Extent := none
  deriving DecidableEq

namespace Failure

/-- The parts of the text that a report underlines, from left to right. -/
def extents (failure : Failure) : List Extent :=
  failure.earlier.toList ++ [failure.extent]

/-- Blanks and carets under the given parts of a line, which are in order, once `column` characters
of the line are passed. A part is marked by at least one caret. -/
def underline (column : Nat) : List Extent → List Char
  | [] => []
  | extent :: extents =>
    let width := max 1 (extent.stop - extent.start)
    List.replicate (extent.start - column) ' ' ++ List.replicate width '^'
      ++ underline (max column extent.start + width) extents

/-- The lines of a text, each with the number of its first character and without the line feed
that ends it. -/
def splitLines (start : Nat) (line : List Char) : List Char → List (Nat × List Char)
  | [] => [(start, line.reverse)]
  | '\n' :: rest => (start, line.reverse) :: splitLines (start + line.length + 1) [] rest
  | c :: rest => splitLines start (c :: line) rest

/-- The line, counted from zero, on which a place lies, and its column there. -/
def locate (text : List Char) (place : Nat) : Nat × Nat :=
  let before := text.take place
  (before.count '\n', (before.reverse.takeWhile (· ≠ '\n')).length)

/-- A line as it is shown: a carriage return in front of the line feed belongs to the line end. -/
def shown (line : List Char) : List Char :=
  if line.getLast? = some '\r' then line.dropLast else line

/-- The numbered lines of a text of several lines, each with the parts on it underlined. A last
line without characters is not shown. -/
def numberedLines (text : List Char) (extents : List Extent) : List Char :=
  let lines := splitLines 0 [] text
  let width := lines.length.repr.length
  let last := lines.length - 1
  (lines.zipIdx.map fun ((start, line), index) =>
    if index = last ∧ line = [] then []
    else
      let number := (index + 1).repr.toList
      let marked := extents.filterMap fun extent =>
        if (locate text extent.start).1 = index ∧ (locate text extent.stop).1 = index then
          some (Extent.mk (extent.start - start) (extent.stop - start))
        else none
      List.replicate (width - number.length) ' ' ++ number ++ ": ".toList
        ++ (if index = last then line else shown line) ++ ['\n']
        ++ (if marked = [] then []
            else List.replicate (width + 2) ' ' ++ underline 0 marked ++ ['\n'])).flatten

/-- What is said about the parts that reach over several lines. -/
def wideNotes (text : List Char) (extents : List Extent) : List Char :=
  (extents.filterMap fun extent =>
    let (firstLine, firstColumn) := locate text extent.start
    let (lastLine, lastColumn) := locate text extent.stop
    if firstLine = lastLine then none
    else some (("on line " ++ (firstLine + 1).repr ++ " (column " ++ (firstColumn + 1).repr
      ++ ") through line " ++ (lastLine + 1).repr ++ " (column " ++ lastColumn.repr
      ++ ")\n").toList)).flatten

/-- The report on a failure in the pattern text `text`. -/
def report (failure : Failure) (text : String) : String :=
  let chars := text.toList
  let shownText :=
    if '\n' ∈ chars then
      let divider := List.replicate 79 '~' ++ ['\n']
      divider ++ numberedLines chars failure.extents ++ divider
        ++ wideNotes chars failure.extents
    else
      let indent := List.replicate 4 ' '
      indent ++ chars ++ ['\n'] ++ indent ++ underline 0 failure.extents ++ ['\n']
  "regex parse error:\n" ++ String.ofList shownText ++ "error: " ++ failure.reason.message

end Failure

end MarkerExpansion.Pattern
