import MarkerExpansion.Pattern.Failure
import MarkerExpansion.Text.Blank

/-!
Repetition operators: how often the expression before them is taken.

Each operator may be followed by a question mark, which asks for as few repetitions as possible. It
makes no difference to whether a text matches.
-/

namespace MarkerExpansion.Pattern

/-- How often an expression may be repeated. -/
structure Repetition where
  least : Nat
  most : Option Nat

namespace Repetition

/-- The number of characters that a question mark at the front takes: one or none. -/
def lazyMark (cs : List Char) : Nat := if cs.head? = some '?' then 1 else 0

/-- A decimal number: the characters of its surrounding blanks and digits, and its value. -/
structure Decimal where
  value : Except Failure Nat
  taken : Nat

/-- The largest count that a repetition may give. -/
def maxCount : Nat := UInt32.size - 1

/-- Reads a number between optional blanks. A fault of the number is kept for later: a missing
brace is reported before it. -/
def readDecimal (place : Nat) (cs : List Char) : Decimal :=
  let lead := (cs.takeWhile Text.isBlank).length
  let digits := (cs.drop lead).takeWhile Char.isDigit
  let trail := (((cs.drop lead).drop digits.length).takeWhile Text.isBlank).length
  let extent : Extent := ⟨place + lead, place + lead + digits.length⟩
  let value := digits.foldl (fun value c => value * 10 + (c.toNat - '0'.toNat)) 0
  { value :=
      if digits = [] then .error { reason := .repetitionCountEmpty, extent }
      else if maxCount < value then .error { reason := .repetitionCountTooLarge, extent }
      else .ok value
    taken := lead + digits.length + trail }

/-- Reads what follows the number of a counted repetition, from `place` on: a comma and a second
number may come before the closing brace. -/
def readBounds (brace place : Nat) (least : Except Failure Nat) (cs : List Char) :
    Except Failure (Repetition × Nat) := do
  let unclosed (stop : Nat) : Failure := { reason := .repetitionUnclosed, extent := ⟨brace, stop⟩ }
  let close (repetition : Repetition) (place : Nat) (cs : List Char) :
      Except Failure (Repetition × Nat) :=
    match cs with
    | '\x7d' :: _ => .ok (repetition, place + 1)
    | _ => .error (unclosed place)
  match cs with
  | [] => .error (unclosed place)
  | ',' :: [] => .error (unclosed (place + 1))
  | ',' :: '\x7d' :: rest =>
    close ⟨← least, none⟩ (place + 1) ('\x7d' :: rest)
  | ',' :: rest =>
    let least ← least
    let second := readDecimal (place + 1) rest
    let most ← second.value
    close ⟨least, some most⟩ (place + 1 + second.taken) (rest.drop second.taken)
  | _ =>
    let count ← least
    close ⟨count, some count⟩ place cs

/-- Reads the counted repetition whose opening brace stands at `brace`, with the characters after
it. -/
def readCounted (brace : Nat) (cs : List Char) : Except Failure (Repetition × Nat) := do
  if cs = [] then .error { reason := .repetitionUnclosed, extent := .char brace }
  else
    let first := readDecimal (brace + 1) cs
    let (repetition, stop) ←
      readBounds brace (brace + 1 + first.taken) first.value (cs.drop first.taken)
    let taken := stop - (brace + 1)
    let taken := taken + lazyMark (cs.drop taken)
    if repetition.most.any (· < repetition.least) then
      .error { reason := .repetitionReversed, extent := ⟨brace, brace + 1 + taken⟩ }
    else return (repetition, taken)

end Repetition

end MarkerExpansion.Pattern
