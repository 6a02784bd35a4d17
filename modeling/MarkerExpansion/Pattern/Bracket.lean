import MarkerExpansion.Pattern.Escape

/-!
Sets of characters in brackets.

Inside brackets stand characters, ranges, escapes for sets, ASCII sets by name and further brackets.
What stands side by side is united; the operators `&&`, `--` and `~~` combine the union on their
left with the one on their right, and of several operators the left one binds first.
-/

namespace MarkerExpansion.Pattern

inductive SetOperator where
  | inter
  | diff
  | symmDiff

def SetOperator.apply : SetOperator → CharSet → CharSet → CharSet
  | .inter => .inter
  | .diff => .diff
  | .symmDiff => .symmDiff

/-- Brackets that are not closed yet. -/
structure Bracket where
  /-- The opening bracket and what belongs to it: the sign of negation, and a first bracket or
  first hyphens that stand for themselves. -/
  opening : Extent
  negated : Bool
  /-- The operator last read and the set on its left. -/
  pending : Option (CharSet × SetOperator)
  /-- The union of what was read since the opening or the last operator. -/
  union : CharSet

namespace Bracket

def add (bracket : Bracket) (set : CharSet) : Bracket :=
  { bracket with union := .union bracket.union set }

/-- The set read so far, without regard to negation. Both sides of an operator are closed under a
change of case before they are combined. -/
def value (ignoreCase : Bool) (bracket : Bracket) : CharSet :=
  match bracket.pending with
  | none => bracket.union
  | some (left, operator) =>
    operator.apply (left.withCase ignoreCase) (bracket.union.withCase ignoreCase)

/-- The bracket after an operator. -/
def addOperator (ignoreCase : Bool) (bracket : Bracket) (operator : SetOperator) : Bracket :=
  { bracket with
    pending := some (bracket.value ignoreCase, operator)
    union := .empty }

/-- The set that the brackets stand for, once they are closed. -/
def set (ignoreCase : Bool) (bracket : Bracket) : CharSet :=
  let inside := (bracket.value ignoreCase).withCase ignoreCase
  if bracket.negated then .compl inside else inside

def unclosed (extent : Extent) : Failure := { reason := .classUnclosed, extent }

/-- Opens brackets at `place`, with the characters after the opening bracket. The sign of negation,
then any number of hyphens or else one closing bracket are part of the opening. -/
def start (place : Nat) (cs : List Char) : Except Failure (Bracket × Nat) :=
  let negated := cs.head? = some '^'
  let signs := if negated then 1 else 0
  let inside := cs.drop signs
  let hyphens := (inside.takeWhile (· = '-')).length
  if inside = [] then .error (unclosed ⟨place, place + 1 + signs⟩)
  else if hyphens = inside.length then .error (unclosed (.at place))
  else if hyphens = 0 ∧ inside.head? = some ']' then
    let opening : Extent := ⟨place, place + 2 + signs⟩
    if inside.length = 1 then .error (unclosed opening)
    else .ok (⟨opening, negated, none, .singleton ']'⟩, signs + 1)
  else
    let union := if hyphens = 0 then .empty else .singleton '-'
    .ok (⟨⟨place, place + 1 + signs + hyphens⟩, negated, none, union⟩, signs + hyphens)

/-- Reads the name of an ASCII set, with the characters after its opening bracket; `none` if no
such name stands there. -/
def asciiSet? (cs : List Char) : Option (CharSet × Nat) :=
  match cs with
  | ':' :: rest =>
    let negated := rest.head? = some '^'
    let signs := if negated then 1 else 0
    let name := (rest.drop signs).takeWhile (· ≠ ':')
    if ((rest.drop signs).drop name.length).take 2 = [':', ']'] then
      (CharSet.ascii? (String.ofList name)).map fun set =>
        (if negated then .compl set else set, signs + name.length + 3)
    else none
  | _ => none

/-- The set that an atom stands for, where it is no end of a range. -/
def itemSet (extent : Extent) : Atom → Except Failure CharSet
  | .char c => .ok (.singleton c)
  | .set set => .ok set
  | .assertion _ => .error { reason := .classEscape, extent }

/-- The character that an atom stands for as the end of a range. -/
def rangeEnd (extent : Extent) : Atom → Except Failure Char
  | .char c => .ok c
  | _ => .error { reason := .classRangeBoundary, extent }

/-- Reads a single item or a range that starts with the character `c` at `place`. A hyphen makes no
range if a closing bracket or another hyphen follows it. -/
def readItem (bracket : Bracket) (place : Nat) (c : Char) (cs : List Char) :
    Except Failure (CharSet × Nat) := do
  let (first, taken) ← Atom.read place c cs
  let firstExtent : Extent := ⟨place, place + 1 + taken⟩
  match cs.drop taken with
  | [] => .error (unclosed bracket.opening)
  | '-' :: rest =>
    match rest with
    | [] => .error (unclosed bracket.opening)
    | d :: rest =>
      if d = ']' || d = '-' then return (← itemSet firstExtent first, taken)
      let secondPlace := firstExtent.stop + 1
      let (second, secondTaken) ← Atom.read secondPlace d rest
      let secondExtent : Extent := ⟨secondPlace, secondPlace + 1 + secondTaken⟩
      let low ← rangeEnd firstExtent first
      let high ← rangeEnd secondExtent second
      if high < low then
        .error { reason := .classRangeReversed, extent := ⟨place, secondExtent.stop⟩ }
      else return (.between low high, taken + 2 + secondTaken)
  | _ => return (← itemSet firstExtent first, taken)

/-- Reads on inside brackets: `bracket` is the innermost that is open, `outer` those around it, and
`skip` the number of characters that an earlier step has already read. Gives the set and the place
after the bracket that closes it. -/
def readInside (ignoreCase : Bool) (bracket : Bracket) (outer : List Bracket)
    (place skip : Nat) : List Char → Except Failure (CharSet × Nat)
  | [] => .error (unclosed bracket.opening)
  | c :: cs =>
    match skip with
    | skip + 1 => readInside ignoreCase bracket outer (place + 1) skip cs
    | 0 =>
      let operator (op : SetOperator) :=
        readInside ignoreCase (bracket.addOperator ignoreCase op) outer (place + 1) 1 cs
      match c, cs.head? with
      | '[', _ =>
        match asciiSet? cs with
        | some (set, taken) => readInside ignoreCase (bracket.add set) outer (place + 1) taken cs
        | none =>
          match start place cs with
          | .error failure => .error failure
          | .ok (inner, taken) =>
            readInside ignoreCase inner (bracket :: outer) (place + 1) taken cs
      | ']', _ =>
        match outer with
        | [] => .ok (bracket.set ignoreCase, place + 1)
        | parent :: outer =>
          readInside ignoreCase (parent.add (bracket.set ignoreCase)) outer (place + 1) 0 cs
      | '&', some '&' => operator .inter
      | '-', some '-' => operator .diff
      | '~', some '~' => operator .symmDiff
      | _, _ =>
        match readItem bracket place c cs with
        | .error failure => .error failure
        | .ok (set, taken) => readInside ignoreCase (bracket.add set) outer (place + 1) taken cs

/-- Reads the set whose opening bracket stands at `place`, with the characters after it. -/
def read (ignoreCase : Bool) (place : Nat) (cs : List Char) : Except Failure (CharSet × Nat) := do
  let (bracket, taken) ← start place cs
  let (set, stop) ← readInside ignoreCase bracket [] (place + 1) taken cs
  return (set, stop - (place + 1))

end Bracket

end MarkerExpansion.Pattern
