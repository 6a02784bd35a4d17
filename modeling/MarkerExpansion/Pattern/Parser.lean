import MarkerExpansion.Pattern.Bracket
import MarkerExpansion.Pattern.Group
import MarkerExpansion.Pattern.Repetition

/-!
Reading patterns.

The text is read from left to right and the first fault ends the reading. Groups that are open
around the place reached wait on a stack, so a group that is never closed is noticed only at the
end of the text.
-/

namespace MarkerExpansion.Pattern

/-- What has been read of one group. -/
structure Level where
  /-- The flags in force at the place reached. -/
  flags : Flags
  /-- The alternatives that are complete, latest first. -/
  branches : List Pattern := []
  /-- The items of the current alternative, latest first. -/
  items : List Pattern := []
  /-- Whether an expression stands right before the place reached, so that it can be repeated. -/
  repeatable : Bool := false

namespace Level

/-- The current alternative. -/
def branch (level : Level) : Pattern :=
  match level.items with
  | [] => .empty
  | last :: before => before.foldl (fun rest item => .seq item rest) last

/-- The whole group. -/
def pattern (level : Level) : Pattern :=
  level.branches.foldl (fun rest branch => .alt branch rest) level.branch

/-- The level with a further item at its end. -/
def push (level : Level) (item : Pattern) : Level :=
  { level with items := item :: level.items, repeatable := true }

/-- The level after a bar. -/
def nextBranch (level : Level) : Level :=
  { level with
    branches := level.branch :: level.branches
    items := []
    repeatable := false }

/-- The level in which the last item is repeated. -/
def repeatLast (level : Level) (repetition : Repetition) : Level :=
  match level.items with
  | [] => level
  | item :: items =>
    { level with items := .times item repetition.least repetition.most :: items }

end Level

/-- The state of a reading. -/
structure Reading where
  /-- The innermost open group, or the whole pattern. -/
  level : Level
  /-- The groups around it, innermost first, each with the place of the parenthesis that opened the
  group inside it. -/
  outer : List (Level × Nat) := []
  /-- The names given to groups so far. -/
  names : List (String × Extent) := []

namespace Reading

/-- Adds an item to the innermost open group. -/
def push (reading : Reading) (item : Pattern) : Reading :=
  { reading with level := reading.level.push item }

/-- The reading inside a group that opens at `place`. -/
def openGroup (reading : Reading) (place : Nat) (flags : Flags) : Reading :=
  { reading with level := { flags }, outer := (reading.level, place) :: reading.outer }

/-- Reads on after the opening parenthesis at `place`. -/
def readGroupStart (reading : Reading) (place : Nat) (cs : List Char) :
    Except Failure (Reading × Nat) := do
  let flags := reading.level.flags
  match ← GroupStart.read place cs with
  | (.group list, taken) => return (reading.openGroup place (list.apply flags), taken)
  | (.setFlags list, taken) =>
    let level := { reading.level with flags := list.apply flags, repeatable := false }
    return ({ reading with level }, taken)
  | (.named name extent, taken) =>
    match reading.names.lookup name with
    | some earlier => .error { reason := .groupNameRepeated, extent, earlier := some earlier }
    | none =>
      let reading := { reading with names := (name, extent) :: reading.names }
      return (reading.openGroup place flags, taken)

/-- Closes the innermost group by the parenthesis at `place`. -/
def closeGroup (reading : Reading) (place : Nat) : Except Failure Reading :=
  match reading.outer with
  | [] => .error { reason := .groupUnopened, extent := .char place }
  | (level, _) :: outer =>
    .ok { reading with level := level.push reading.level.pattern, outer }

/-- Repeats the last item by the operator at `place`, which is then read by `read`. -/
def readRepetition (reading : Reading) (place : Nat)
    (read : Except Failure (Repetition × Nat)) : Except Failure (Reading × Nat) := do
  if reading.level.repeatable then
    let (repetition, taken) ← read
    return ({ reading with level := reading.level.repeatLast repetition }, taken)
  else .error { reason := .repetitionMissing, extent := .at place }

/-- Reads the item that starts with the character `c` at `place` and goes on in `cs`. Gives the
number of characters taken after `c`. -/
def step (reading : Reading) (place : Nat) (c : Char) (cs : List Char) :
    Except Failure (Reading × Nat) :=
  let flags := reading.level.flags
  let operator (least : Nat) (most : Option Nat) :=
    reading.readRepetition place (.ok (⟨least, most⟩, Repetition.lazyMark cs))
  match c with
  | '(' => reading.readGroupStart place cs
  | ')' => return (← reading.closeGroup place, 0)
  | '|' => return ({ reading with level := reading.level.nextBranch }, 0)
  | '?' => operator 0 (some 1)
  | '*' => operator 0 none
  | '+' => operator 1 none
  | '\x7b' => reading.readRepetition place (Repetition.readCounted place cs)
  | '[' => do
    let (set, taken) ← Bracket.read flags.ignoreCase place cs
    return (reading.push (.char set), taken)
  | '.' =>
    return (reading.push (.char (if flags.dotAll then .full else .compl (.singleton '\n'))), 0)
  | '^' => return (reading.push (.assert (if flags.multiLine then .lineStart else .textStart)), 0)
  | '$' => return (reading.push (.assert (if flags.multiLine then .lineEnd else .textEnd)), 0)
  | _ => do
    match ← Atom.read place c cs with
    | (.char c, taken) =>
      return (reading.push (.char ((CharSet.singleton c).withCase flags.ignoreCase)), taken)
    | (.set set, taken) => return (reading.push (.char set), taken)
    | (.assertion assertion, taken) => return (reading.push (.assert assertion), taken)

/-- The pattern read, at the end of the text. -/
def finish (reading : Reading) : Except Failure Pattern :=
  match reading.outer with
  | [] => .ok reading.level.pattern
  | (_, place) :: _ => .error { reason := .groupUnclosed, extent := .char place }

/-- Reads on from `place`, where `skip` is the number of characters that an earlier step has
already read. -/
def run (reading : Reading) (place skip : Nat) : List Char → Except Failure Pattern
  | [] => reading.finish
  | c :: cs =>
    match skip with
    | skip + 1 => run reading (place + 1) skip cs
    | 0 =>
      match reading.step place c cs with
      | .error failure => .error failure
      | .ok (reading, taken) => run reading (place + 1) taken cs

end Reading

/-- The pattern that a text describes. -/
def parse (text : String) : Except Failure Pattern :=
  ({ level := { flags := {} } } : Reading).run 0 0 text.toList

end MarkerExpansion.Pattern
