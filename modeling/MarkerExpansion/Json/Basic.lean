/-!
JSON values.

Numbers keep the digits they were written with, so that a value read and written again is the
same text, and a string may be one that spells no text at all: JSON allows an escape for half of a
surrogate pair, which is no character.
-/

namespace MarkerExpansion

/-- A JSON value. Objects keep their members in the order they were written, repeated keys
included. -/
inductive Json where
  | null
  | bool (value : Bool)
  /-- A number, by the digits it is written with. -/
  | number (digits : String)
  /-- A string, or `none` for one whose escapes leave a surrogate without its partner. -/
  | string (text : Option String)
  | array (items : List Json)
  | object (members : List (Option String × Json))

namespace Json

/-- The string that spells `s`. -/
def ofString (s : String) : Json := .string (some s)

/-- The number `n` in decimal digits. -/
def ofNat (n : Nat) : Json := .number n.repr

/-- An object whose keys all spell a text. -/
def ofMembers (members : List (String × Json)) : Json :=
  .object (members.map fun (key, value) => (some key, value))

/-- The value of the first member called `key`. -/
def get? (key : String) : Json → Option Json
  | .object members => members.findSome? fun (name, value) =>
      if name = some key then some value else none
  | _ => none

/-- The text of a string. -/
def text? : Json → Option String
  | .string text => text
  | _ => none

/-- The value of a number that is written as a run of decimal digits. -/
def nat? : Json → Option Nat
  | .number digits => digits.toNat?
  | _ => none

def bool? : Json → Option Bool
  | .bool value => some value
  | _ => none

def items? : Json → Option (List Json)
  | .array items => some items
  | _ => none

def isNull : Json → Bool
  | .null => true
  | _ => false

end Json

end MarkerExpansion
