import MarkerExpansion.Json.Token

/-!
Reading JSON text.

The values around the one being read wait on a stack of their own, so nesting may be of any depth.
-/

namespace MarkerExpansion.Json

/-- An array or object that is not closed yet, with what it holds so far (latest first). -/
inductive Frame where
  | array (items : List Json)
  /-- An object in which the value of `key` is awaited. -/
  | object (members : List (Option String × Json)) (key : Option String)

/-- Builds the value that the tokens spell. `stack` holds what is open around the place reached,
innermost first, and `current` the value that has just ended there: while there is none, a value
has to come. -/
def build : List Token → List Frame → Option Json → Option Json
  | [], [], some value => some value
  | .null :: rest, stack, none => build rest stack (some .null)
  | .bool b :: rest, stack, none => build rest stack (some (.bool b))
  | .number digits :: rest, stack, none => build rest stack (some (.number digits))
  | .string text :: rest, stack, none => build rest stack (some (.string text))
  | .openArray :: .closeArray :: rest, stack, none => build rest stack (some (.array []))
  | .openArray :: rest, stack, none => build rest (.array [] :: stack) none
  | .openObject :: .closeObject :: rest, stack, none => build rest stack (some (.object []))
  | .openObject :: .string key :: .colon :: rest, stack, none =>
    build rest (.object [] key :: stack) none
  | .comma :: rest, .array items :: stack, some value =>
    build rest (.array (value :: items) :: stack) none
  | .closeArray :: rest, .array items :: stack, some value =>
    build rest stack (some (.array (value :: items).reverse))
  | .comma :: .string next :: .colon :: rest, .object members key :: stack, some value =>
    build rest (.object ((key, value) :: members) next :: stack) none
  | .closeObject :: rest, .object members key :: stack, some value =>
    build rest stack (some (.object ((key, value) :: members).reverse))
  | _, _, _ => none

/-- The value that a text spells, if the whole text is one JSON value. -/
def parse? (text : String) : Option Json := do
  let tokens ← Token.scan text.toList []
  build tokens [] none

end MarkerExpansion.Json
