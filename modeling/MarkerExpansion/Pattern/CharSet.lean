import MarkerExpansion.Text.Blank
import MarkerExpansion.Text.CaseFold
import MarkerExpansion.Text.Digit
import MarkerExpansion.Text.Word

/-!
The sets of characters that a pattern can name.
-/

namespace MarkerExpansion

/-- A set of characters, as a pattern describes it. -/
inductive CharSet where
  | ranges (table : Text.Ranges)
  | digit
  | blank
  | word
  | compl (set : CharSet)
  | union (left right : CharSet)
  | inter (left right : CharSet)
  | diff (left right : CharSet)
  | symmDiff (left right : CharSet)
  /-- The characters that differ from some character of `set` at most in case. -/
  | foldCase (set : CharSet)
  deriving DecidableEq

namespace CharSet

def contains : CharSet → Char → Bool
  | .ranges table, c => table.contains c
  | .digit, c => Text.isDigit c
  | .blank, c => Text.isBlank c
  | .word, c => Text.isWord c
  | .compl set, c => !set.contains c
  | .union left right, c => left.contains c || right.contains c
  | .inter left right, c => left.contains c && right.contains c
  | .diff left right, c => left.contains c && !right.contains c
  | .symmDiff left right, c => left.contains c != right.contains c
  | .foldCase set, c => (Text.caseVariants c).any set.contains

def empty : CharSet := .ranges []

/-- Every character. -/
def full : CharSet := .compl empty

def singleton (c : Char) : CharSet := .ranges [(c.toNat, c.toNat)]

/-- The characters from `low` to `high`, both included. -/
def between (low high : Char) : CharSet := .ranges [(low.toNat, high.toNat)]

/-- The given set, closed under a change of case if case is to be ignored. -/
def withCase (ignoreCase : Bool) (set : CharSet) : CharSet :=
  if ignoreCase then .foldCase set else set

/-- The ASCII set that is written `[:name:]` inside brackets. -/
def ascii? : String → Option CharSet
  | "alnum" => some (.ranges [(0x30, 0x39), (0x41, 0x5A), (0x61, 0x7A)])
  | "alpha" => some (.ranges [(0x41, 0x5A), (0x61, 0x7A)])
  | "ascii" => some (.ranges [(0x00, 0x7F)])
  | "blank" => some (.ranges [(0x09, 0x09), (0x20, 0x20)])
  | "cntrl" => some (.ranges [(0x00, 0x1F), (0x7F, 0x7F)])
  | "digit" => some (.ranges [(0x30, 0x39)])
  | "graph" => some (.ranges [(0x21, 0x7E)])
  | "lower" => some (.ranges [(0x61, 0x7A)])
  | "print" => some (.ranges [(0x20, 0x7E)])
  | "punct" => some (.ranges [(0x21, 0x2F), (0x3A, 0x40), (0x5B, 0x60), (0x7B, 0x7E)])
  | "space" => some (.ranges [(0x09, 0x0D), (0x20, 0x20)])
  | "upper" => some (.ranges [(0x41, 0x5A)])
  | "word" => some (.ranges [(0x30, 0x39), (0x41, 0x5A), (0x5F, 0x5F), (0x61, 0x7A)])
  | "xdigit" => some (.ranges [(0x30, 0x39), (0x41, 0x46), (0x61, 0x66)])
  | _ => none

end CharSet

end MarkerExpansion
