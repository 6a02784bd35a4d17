/-!
Positions in a source text and the identity of names.
-/

namespace MarkerExpansion

/-- A part of the source text, by byte positions. -/
structure Span where
  start : Nat
  stop : Nat
  deriving DecidableEq

/-- The span of what stands nowhere in the source text. -/
def Span.dummy : Span := ⟨0, 0⟩

/-- A name together with the syntax context that tells apart bindings of one name. Two
identifiers mean the same binding if and only if both parts agree. -/
structure Symbol where
  name : String
  context : Nat
  deriving DecidableEq

/-- The address of a statement: its index in the statement list numbered `container`. -/
structure Slot where
  container : Nat
  index : Nat
  deriving DecidableEq

end MarkerExpansion
