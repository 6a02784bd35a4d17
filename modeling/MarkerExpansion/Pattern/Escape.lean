import MarkerExpansion.Pattern.Basic
import MarkerExpansion.Pattern.Failure
import MarkerExpansion.Text.Hex

/-!
Escapes: what a backslash and the characters after it stand for.

The readers of patterns take the place they stand at and the characters from there on, and give
back what they read together with the number of characters taken.
-/

namespace MarkerExpansion.Pattern

/-- What one character or one escape stands for. -/
inductive Atom where
  | char (c : Char)
  | set (set : CharSet)
  | assertion (assertion : Assertion)

namespace Escape

/-- The character with a given code point, where surrogates and too large numbers have none. -/
def scalar? (value : Nat) : Option Char :=
  if value < 0xD800 ∨ (0xDFFF < value ∧ value < 0x110000) then some (Char.ofNat value) else none

/-- Reads exactly `count` hexadecimal digits. -/
def readFixedHex (place count : Nat) (cs : List Char) : Except Failure (Char × Nat) :=
  let digits := (cs.take count).takeWhile Text.isHexDigit
  if digits.length = count then
    match scalar? (Text.hexValue digits) with
    | some c => .ok (c, count)
    | none => .error { reason := .hexNotScalar, extent := ⟨place, place + count⟩ }
  else if cs.length = digits.length then
    .error { reason := .escapeUnfinished, extent := .at (place + cs.length) }
  else .error { reason := .hexDigitInvalid, extent := .char (place + digits.length) }

/-- Reads hexadecimal digits up to a closing brace; the opening one stands right before
`place`. -/
def readBracedHex (place : Nat) (cs : List Char) : Except Failure (Char × Nat) :=
  let digits := cs.takeWhile Text.isHexDigit
  let stop := place + digits.length
  match cs.drop digits.length with
  | [] => .error { reason := .escapeUnfinished, extent := ⟨place - 1, stop⟩ }
  | c :: _ =>
    if c ≠ '\x7d' then .error { reason := .hexDigitInvalid, extent := .char stop }
    else if digits = [] then .error { reason := .hexEmpty, extent := ⟨place - 1, stop + 1⟩ }
    else
      match scalar? (Text.hexValue digits) with
      | some c => .ok (c, digits.length + 1)
      | none => .error { reason := .hexNotScalar, extent := ⟨place, stop⟩ }

/-- Reads the digits of a hexadecimal escape: as many as its letter asks for, or any number in
braces. -/
def readHex (place count : Nat) (cs : List Char) : Except Failure (Char × Nat) :=
  match cs with
  | '\x7b' :: rest => do
    let (c, taken) ← readBracedHex (place + 1) rest
    return (c, taken + 1)
  | _ => readFixedHex place count cs

/-- Whether a backslash before `c` makes it stand for itself: the characters with a meaning in
patterns, and all other ASCII characters that are no letter, digit or angle bracket. -/
def isSelf (c : Char) : Bool :=
  c.toNat < 0x80 && !c.isAlphanum && c ≠ '<' && c ≠ '>'

/-- What a backslash and the single character `c` stand for. -/
def single? (c : Char) : Option Atom :=
  if isSelf c then some (.char c)
  else
    match c with
    | 'd' => some (.set .digit)
    | 'D' => some (.set (.compl .digit))
    | 's' => some (.set .blank)
    | 'S' => some (.set (.compl .blank))
    | 'w' => some (.set .word)
    | 'W' => some (.set (.compl .word))
    | 'a' => some (.char '\x07')
    | 'f' => some (.char '\x0C')
    | 't' => some (.char '\t')
    | 'n' => some (.char '\n')
    | 'r' => some (.char '\r')
    | 'v' => some (.char '\x0B')
    | 'A' => some (.assertion .textStart)
    | 'z' => some (.assertion .textEnd)
    | 'b' => some (.assertion .wordBoundary)
    | 'B' => some (.assertion .notWordBoundary)
    | '<' => some (.assertion .wordStart)
    | '>' => some (.assertion .wordEnd)
    | _ => none

/-- The number of digits that a hexadecimal escape with the letter `c` takes. -/
def hexLength? : Char → Option Nat
  | 'x' => some 2
  | 'u' => some 4
  | 'U' => some 8
  | _ => none

/-- Reads what follows the backslash at `place`. -/
def read (place : Nat) (cs : List Char) : Except Failure (Atom × Nat) :=
  match cs with
  | [] => .error { reason := .escapeUnfinished, extent := .char place }
  | c :: rest =>
    if c.isDigit then .error { reason := .backreference, extent := ⟨place, place + 2⟩ }
    else
      match hexLength? c with
      | some count => do
        let (c, taken) ← readHex (place + 2) count rest
        return (.char c, taken + 1)
      | none =>
        match single? c with
        | some atom => .ok (atom, 1)
        | none => .error { reason := .escapeUnrecognized, extent := ⟨place, place + 2⟩ }

end Escape

/-- Reads the atom that starts with the character `c` at `place` and goes on in `cs`, where a
character other than the backslash stands for itself. The characters taken are those after `c`. -/
def Atom.read (place : Nat) (c : Char) (cs : List Char) : Except Failure (Atom × Nat) :=
  if c = '\\' then Escape.read place cs else .ok (.char c, 0)

end MarkerExpansion.Pattern
