import MarkerExpansion.Pattern.Failure
import MarkerExpansion.Text.Digit
import MarkerExpansion.Text.Word

/-!
What stands right after an opening parenthesis: the kind of the group, its name or its flags.
-/

namespace MarkerExpansion.Pattern

/-- The switches that change what a pattern takes. -/
structure Flags where
  /-- Characters stand for their variants in the other case too. -/
  ignoreCase : Bool := false
  /-- The assertions `^` and `$` hold at the start and end of each line. -/
  multiLine : Bool := false
  /-- The dot takes line feeds too. -/
  dotAll : Bool := false
  deriving DecidableEq

inductive Flag where
  | ignoreCase
  | multiLine
  | dotAll
  /-- Swaps the meaning of the question mark after an operator, which makes no difference to
  whether a text matches. -/
  | swapGreed
  deriving DecidableEq

def Flag.ofChar? : Char → Option Flag
  | 'i' => some .ignoreCase
  | 'm' => some .multiLine
  | 's' => some .dotAll
  | 'U' => some .swapGreed
  | _ => none

def Flags.set (flags : Flags) (value : Bool) : Flag → Flags
  | .ignoreCase => { flags with ignoreCase := value }
  | .multiLine => { flags with multiLine := value }
  | .dotAll => { flags with dotAll := value }
  | .swapGreed => flags

/-- A list of flags as it is written: the flags to set, then the flags to clear. -/
structure FlagList where
  items : List (Flag × Extent) := []
  /-- Where the sign stands after which flags are cleared. -/
  negation : Option Extent := none
  /-- The flags named after that sign. -/
  cleared : List Flag := []

namespace FlagList

def isEmpty (list : FlagList) : Bool := list.items.isEmpty && list.negation.isNone

/-- The flags in force after the list. -/
def apply (list : FlagList) (flags : Flags) : Flags :=
  list.items.foldl (fun flags (flag, _) => flags.set (flag ∉ list.cleared) flag) flags

/-- Adds what the character `c` at `place` says. -/
def add (list : FlagList) (place : Nat) (c : Char) : Except Failure FlagList :=
  let extent := Extent.char place
  if c = '-' then
    match list.negation with
    | some earlier => .error { reason := .negationRepeated, extent, earlier }
    | none => .ok { list with negation := some extent }
  else
    match Flag.ofChar? c with
    | none => .error { reason := .flagUnrecognized, extent }
    | some flag =>
      match list.items.find? (·.1 = flag) with
      | some (_, earlier) => .error { reason := .flagRepeated, extent, earlier := some earlier }
      | none =>
        .ok { list with
          items := list.items ++ [(flag, extent)]
          cleared := if list.negation.isSome then flag :: list.cleared else list.cleared }

/-- Reads flags up to the colon or parenthesis that ends them. Gives them, that character and the
number of characters before it. -/
def read (list : FlagList) (place taken : Nat) :
    List Char → Except Failure (FlagList × Char × Nat)
  | [] => .error { reason := .flagsUnclosed, extent := .at place }
  | c :: cs =>
    if c = ':' || c = ')' then
      match list.negation with
      | some extent =>
        if extent.stop = place then .error { reason := .negationDangling, extent }
        else .ok (list, c, taken)
      | none => .ok (list, c, taken)
    else
      match list.add place c with
      | .error failure => .error failure
      | .ok list => read list (place + 1) (taken + 1) cs

end FlagList

/-- What an opening parenthesis starts. -/
inductive GroupStart where
  /-- A group in which the given flags apply. -/
  | group (flags : FlagList)
  | named (name : String) (extent : Extent)
  /-- No group: the flags apply from here to the end of the group around. -/
  | setFlags (flags : FlagList)

namespace GroupStart

/-- Whether `c` may stand in the name of a group, at its start or later. -/
def isNameChar (first : Bool) (c : Char) : Bool :=
  c = '_' || (if first then Text.isWord c && !Text.isDigit c
    else Text.isWord c || c = '.' || c = '[' || c = ']')

/-- Reads the name that starts at `place` and its closing angle bracket. -/
def readName (place : Nat) (cs : List Char) : Except Failure (GroupStart × Nat) :=
  let name := cs.takeWhile (· ≠ '>')
  let isLegal := fun (c, index) => isNameChar (index = 0) c
  match name.zipIdx.find? fun item => !isLegal item with
  | some (_, index) => .error { reason := .groupNameInvalid, extent := .char (place + index) }
  | none =>
    let extent : Extent := ⟨place, place + name.length⟩
    if cs.length = name.length then
      .error { reason := .groupNameUnclosed, extent := .at extent.stop }
    else if name = [] then .error { reason := .groupNameEmpty, extent }
    else .ok (.named (String.ofList name) extent, name.length + 1)

/-- Reads the flags that start at `place`; the parenthesis stands two characters before. -/
def readFlags (place : Nat) (cs : List Char) : Except Failure (GroupStart × Nat) :=
  if cs = [] then .error { reason := .groupUnclosed, extent := .char (place - 2) }
  else do
    let (flags, last, taken) ← FlagList.read {} place 0 cs
    if last = ':' then return (.group flags, taken + 1)
    else if flags.isEmpty then
      .error { reason := .repetitionMissing, extent := .at (place - 1) }
    else return (.setFlags flags, taken + 1)

/-- Reads what follows the opening parenthesis at `place`. -/
def read (place : Nat) (cs : List Char) : Except Failure (GroupStart × Nat) :=
  let lookAround (length : Nat) : Failure :=
    { reason := .lookAround, extent := ⟨place, place + 1 + length⟩ }
  match cs with
  | '?' :: '=' :: _ | '?' :: '!' :: _ => .error (lookAround 2)
  | '?' :: '<' :: '=' :: _ | '?' :: '<' :: '!' :: _ => .error (lookAround 3)
  | '?' :: 'P' :: '<' :: rest => do
    let (start, taken) ← readName (place + 4) rest
    return (start, taken + 3)
  | '?' :: '<' :: rest => do
    let (start, taken) ← readName (place + 3) rest
    return (start, taken + 2)
  | '?' :: rest => do
    let (start, taken) ← readFlags (place + 2) rest
    return (start, taken + 1)
  | _ => .ok (.group {}, 0)

end GroupStart

end MarkerExpansion.Pattern
