import MarkerExpansion.Tree.Lists

/-!
Where identifiers occur in a program.

A walk lists every identifier that can refer to a binding, in order, together with what an expansion
has to know about its surroundings: whether it is what a call calls, and which expression statement
it stands in. Imports are not entered.
-/

namespace MarkerExpansion

/-- The innermost expression statement around a node. -/
inductive Anchor where
  /-- There is none. -/
  | absent
  /-- It is no item of a block or of the program, but of a `switch` branch, say. -/
  | loose
  /-- It is the item at this slot. -/
  | at (slot : Slot)
  deriving DecidableEq

/-- What a walk knows about the surroundings of a node. -/
structure Surroundings where
  /-- The slot of the node itself, if it is an item of a block or of the program. -/
  slot : Option Slot
  anchor : Anchor
  /-- Whether the node is the callee of a call. -/
  isCallee : Bool
  deriving DecidableEq

/-- An identifier at a place in a program. -/
structure Occurrence where
  ident : Ident
  isCallee : Bool
  anchor : Anchor
  deriving DecidableEq

namespace Surroundings

/-- The surroundings of a child that is neither a callee nor an item of a list. -/
def inside (around : Surroundings) : Surroundings := ⟨none, around.anchor, false⟩

/-- The surroundings of a callee. -/
def callee (around : Surroundings) : Surroundings := ⟨none, around.anchor, true⟩

/-- The surroundings of the expression of an expression statement. -/
def statement (around : Surroundings) : Surroundings :=
  ⟨none, around.slot.elim .loose .at, false⟩

end Surroundings

namespace Node

mutual

/-- The occurrences in a node, where `first` is the number of its first statement list. -/
def occurrences (first : Nat) (around : Surroundings) : Node → List Occurrence
  | .ident identifier => [⟨identifier, around.isCallee, around.anchor⟩]
  | .binder identifier none => [⟨identifier, false, around.anchor⟩]
  | .binder identifier (some typing) =>
    ⟨identifier, false, around.anchor⟩ :: typing.occurrences first around.inside
  | .word _ _ => []
  | .call _ _ callee arguments none =>
    callee.occurrences first around.callee
      ++ occurrencesOf none 0 (first + callee.listCount) around.anchor arguments
  | .call _ _ callee arguments (some typeArguments) =>
    callee.occurrences first around.callee
      ++ occurrencesOf none 0 (first + callee.listCount) around.anchor arguments
      ++ typeArguments.occurrences (first + callee.listCount + listCountOf arguments) around.inside
  | .argument _ value => value.occurrences first around.inside
  | .member _ object property =>
    object.occurrences first around.inside
      ++ property.occurrences (first + object.listCount) around.inside
  | .paren _ inner => inner.occurrences first around.inside
  | .exprStmt _ expression => expression.occurrences first around.statement
  | .varDecl _ _ declarators => occurrencesOf none 0 first around.anchor declarators
  | .declarator _ _ pattern none => pattern.occurrences first around.inside
  | .declarator _ _ pattern (some init) =>
    pattern.occurrences first around.inside
      ++ init.occurrences (first + pattern.listCount) around.inside
  | .exportDecl _ declaration => declaration.occurrences first around.inside
  | .importDecl _ => []
  | .block _ _ items => occurrencesOf (some first) 0 (first + 1) around.anchor items
  | .switchCase _ none items => occurrencesOf none 0 (first + 1) around.anchor items
  | .switchCase _ (some test) items =>
    test.occurrences first around.inside
      ++ occurrencesOf none 0 (first + test.listCount + 1) around.anchor items
  | .other _ children => occurrencesOf none 0 first around.anchor children

/-- The occurrences in several nodes in a row. If the nodes are items of a list that can hold
marker calls, `container` is its number and `index` the index of the first of them. -/
def occurrencesOf (container : Option Nat) (index first : Nat) (anchor : Anchor) :
    List Node → List Occurrence
  | [] => []
  | node :: nodes =>
    node.occurrences first ⟨container.map fun number => ⟨number, index⟩, anchor, false⟩
      ++ occurrencesOf container (index + 1) (first + node.listCount) anchor nodes

end

/-- The nodes of the right part are walked with the numbers that the left part leaves. -/
theorem occurrencesOf_append (container : Option Nat) (index first : Nat) (anchor : Anchor)
    (left right : List Node) :
    occurrencesOf container index first anchor (left ++ right) =
      occurrencesOf container index first anchor left
        ++ occurrencesOf container (index + left.length) (first + listCountOf left) anchor
          right := by
  induction left generalizing index first with
  | nil => simp [occurrencesOf]
  | cons node nodes ih =>
    simp [occurrencesOf, ih, Nat.add_assoc, Nat.add_comm 1]

end Node

/-- All occurrences in a program, in the order of a walk. -/
def Program.occurrences (program : Program) : List Occurrence :=
  Node.occurrencesOf (some 0) 0 1 .absent program.body

end MarkerExpansion
