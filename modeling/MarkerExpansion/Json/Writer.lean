import MarkerExpansion.Json.Basic

/-!
Writing JSON text, without blanks.

Each function writes in front of a given rest, so the time is proportional to the text written.
-/

namespace MarkerExpansion.Json

/-- The lower case hexadecimal digit of `n < 16`. -/
def hexDigit (n : Nat) : Char := Nat.digitChar n

/-- One character of a string, escaped where JSON does not let it stand for itself. -/
def spellChar (c : Char) (rest : List Char) : List Char :=
  if c = '"' then '\\' :: '"' :: rest
  else if c = '\\' then '\\' :: '\\' :: rest
  else if c.toNat < 0x20 then
    '\\' :: 'u' :: '0' :: '0' :: hexDigit (c.toNat / 16) :: hexDigit (c.toNat % 16) :: rest
  else c :: rest

/-- A string with its quotes. One that spells no text is written as a lone surrogate. -/
def spellString (text : Option String) (rest : List Char) : List Char :=
  match text with
  | some s => '"' :: s.toList.foldr spellChar ('"' :: rest)
  | none => '"' :: '\\' :: 'u' :: 'd' :: '8' :: '0' :: '0' :: '"' :: rest

mutual

/-- The characters of a value, in front of `rest`. -/
def spell : Json → List Char → List Char
  | .null, rest => 'n' :: 'u' :: 'l' :: 'l' :: rest
  | .bool true, rest => 't' :: 'r' :: 'u' :: 'e' :: rest
  | .bool false, rest => 'f' :: 'a' :: 'l' :: 's' :: 'e' :: rest
  | .number digits, rest => digits.toList ++ rest
  | .string text, rest => spellString text rest
  | .array [], rest => '[' :: ']' :: rest
  | .array (item :: items), rest => '[' :: spell item (spellItems items (']' :: rest))
  | .object [], rest => '\x7b' :: '\x7d' :: rest
  | .object ((key, value) :: members), rest =>
    '\x7b' :: spellString key (':' :: spell value (spellMembers members ('\x7d' :: rest)))

/-- The items of an array after its first. -/
def spellItems : List Json → List Char → List Char
  | [], rest => rest
  | item :: items, rest => ',' :: spell item (spellItems items rest)

/-- The members of an object after its first. -/
def spellMembers : List (Option String × Json) → List Char → List Char
  | [], rest => rest
  | (key, value) :: members, rest =>
    ',' :: spellString key (':' :: spell value (spellMembers members rest))

end

/-- The text of a value. -/
def render (value : Json) : String := String.ofList (value.spell [])

end MarkerExpansion.Json
