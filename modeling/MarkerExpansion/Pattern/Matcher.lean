import MarkerExpansion.Pattern.Basic

/-!
Matching texts.

A pattern is run from a set of places at once and gives the set of all places where it can end.
Each repetition then needs at most as many rounds as the text has characters, so no pattern takes
exponential time.
-/

namespace MarkerExpansion.Pattern

/-- A set of places in a text: place `i` belongs to it if bit `i` is set. -/
structure Places where
  bits : Nat
  deriving DecidableEq

namespace Places

def contains (places : Places) (place : Nat) : Bool := places.bits.testBit place

def empty : Places := ⟨0⟩

def union (left right : Places) : Places := ⟨left.bits ||| right.bits⟩

/-- The places below `bound` for which `keep` holds. -/
def below (keep : Nat → Bool) : Nat → Places
  | 0 => empty
  | bound + 1 =>
    let rest := below keep bound
    if keep bound then ⟨rest.bits ||| 1 <<< bound⟩ else rest

/-- Each place moved behind the next character. -/
def next (places : Places) : Places := ⟨places.bits <<< 1⟩

@[simp] theorem contains_empty (place : Nat) : empty.contains place = false := by
  simp [contains, empty]

@[simp] theorem contains_union (left right : Places) (place : Nat) :
    (left.union right).contains place = (left.contains place || right.contains place) := by
  simp [contains, union]

@[simp] theorem contains_below (keep : Nat → Bool) (bound place : Nat) :
    (below keep bound).contains place = (decide (place < bound) && keep place) := by
  induction bound with
  | zero => simp [below]
  | succ bound ih =>
    simp only [contains] at ih
    simp only [below, contains]
    by_cases hplace : place = bound
    · subst hplace
      by_cases hkeep : keep place <;> simp [hkeep, ih, Nat.one_shiftLeft]
    · have hlt : place < bound + 1 ↔ place < bound := by omega
      by_cases hkeep : keep bound <;>
        simp [hkeep, ih, hlt, Nat.one_shiftLeft, Nat.testBit_two_pow_of_ne (Ne.symm hplace)]

@[simp] theorem contains_next (places : Places) (place : Nat) :
    places.next.contains place = (decide (0 < place) && places.contains (place - 1)) := by
  simp only [contains, next, Nat.testBit_shiftLeft, Nat.succ_le_iff, ge_iff_le]

end Places

/-- Applies `step` exactly `count` times. A set that the step does not change stays as it is. -/
def stepTimes (step : Places → Places) : Nat → Places → Places
  | 0, places => places
  | count + 1, places =>
    let after := step places
    if after = places then places else stepTimes step count after

/-- Applies `step` at most `count` times: the union over all numbers of applications. -/
def stepUpTo (step : Places → Places) : Nat → Places → Places
  | 0, places => places
  | count + 1, places =>
    let after := places.union (step places)
    if after = places then places else stepUpTo step count after

/-- The places where the pattern can end if it starts at one of `places`. -/
def ends (text : Array Char) : Pattern → Places → Places
  | .empty, places => places
  | .char set, places =>
    (Places.below (fun i => places.contains i && (text[i]?).any set.contains) text.size).next
  | .assert assertion, places =>
    Places.below (fun i => places.contains i && assertion.holds text i) (text.size + 1)
  | .seq first second, places => second.ends text (first.ends text places)
  | .alt left right, places => (left.ends text places).union (right.ends text places)
  | .times body least most, places =>
    let reached := stepTimes (body.ends text) least places
    stepUpTo (body.ends text) (most.elim text.size (· - least)) reached

/-- Whether the pattern takes some part of the text, which may be empty. -/
def matchesText (pattern : Pattern) (text : String) : Bool :=
  let chars := text.toList.toArray
  pattern.ends chars (Places.below (fun _ => true) (chars.size + 1)) ≠ Places.empty

end MarkerExpansion.Pattern
