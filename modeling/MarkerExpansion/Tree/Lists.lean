import MarkerExpansion.Tree.Basic

/-!
The statement lists of a program.

Statement lists are the body of the program, blocks, the bodies of namespaces and the branches of
`switch`. They are numbered from zero in the order in which a walk enters them: a list comes before
the lists inside its items, and the list of a branch after those of its test.
-/

namespace MarkerExpansion

namespace Node

mutual

/-- The statement lists of a node, in the order of their numbers. -/
def lists : Node → List (List Node)
  | .ident _ => []
  | .binder _ none => []
  | .binder _ (some typing) => typing.lists
  | .word _ _ => []
  | .call _ _ callee arguments none => callee.lists ++ listsOf arguments
  | .call _ _ callee arguments (some typeArguments) =>
    callee.lists ++ listsOf arguments ++ typeArguments.lists
  | .argument _ value => value.lists
  | .member _ object property => object.lists ++ property.lists
  | .paren _ inner => inner.lists
  | .exprStmt _ expression => expression.lists
  | .varDecl _ _ declarators => listsOf declarators
  | .declarator _ _ pattern none => pattern.lists
  | .declarator _ _ pattern (some init) => pattern.lists ++ init.lists
  | .exportDecl _ declaration => declaration.lists
  | .importDecl _ => []
  | .block _ _ items => items :: listsOf items
  | .switchCase _ none items => items :: listsOf items
  | .switchCase _ (some test) items => test.lists ++ items :: listsOf items
  | .other _ children => listsOf children

/-- The statement lists of several nodes in a row. -/
def listsOf : List Node → List (List Node)
  | [] => []
  | node :: nodes => node.lists ++ listsOf nodes

end

/-- How many statement lists a node has. -/
def listCount (node : Node) : Nat := node.lists.length

/-- How many statement lists several nodes have. -/
def listCountOf (nodes : List Node) : Nat := (listsOf nodes).length

theorem listsOf_append (left right : List Node) :
    listsOf (left ++ right) = listsOf left ++ listsOf right := by
  induction left with
  | nil => simp [listsOf]
  | cons node nodes ih => simp [listsOf, ih]

@[simp] theorem listCountOf_nil : listCountOf [] = 0 := by
  simp [listCountOf, listsOf]

@[simp] theorem listCountOf_cons (node : Node) (nodes : List Node) :
    listCountOf (node :: nodes) = node.listCount + listCountOf nodes := by
  simp [listCountOf, listCount, listsOf]

@[simp] theorem listCountOf_append (left right : List Node) :
    listCountOf (left ++ right) = listCountOf left + listCountOf right := by
  simp [listCountOf, listsOf_append]

mutual

/-- The node with `items` as its statement list number `target`, where `first` is the number of
its first list. -/
def setList (target : Nat) (items : List Node) (first : Nat) : Node → Node
  | .ident identifier => .ident identifier
  | .binder identifier none => .binder identifier none
  | .binder identifier (some typing) =>
    .binder identifier (some (typing.setList target items first))
  | .word span name => .word span name
  | .call span context callee arguments none =>
    .call span context (callee.setList target items first)
      (setListOf target items (first + callee.listCount) arguments) none
  | .call span context callee arguments (some typeArguments) =>
    .call span context (callee.setList target items first)
      (setListOf target items (first + callee.listCount) arguments)
      (some (typeArguments.setList target items
        (first + callee.listCount + listCountOf arguments)))
  | .argument spread value => .argument spread (value.setList target items first)
  | .member span object property =>
    .member span (object.setList target items first)
      (property.setList target items (first + object.listCount))
  | .paren span inner => .paren span (inner.setList target items first)
  | .exprStmt span expression => .exprStmt span (expression.setList target items first)
  | .varDecl span header declarators =>
    .varDecl span header (setListOf target items first declarators)
  | .declarator span definite pattern none =>
    .declarator span definite (pattern.setList target items first) none
  | .declarator span definite pattern (some init) =>
    .declarator span definite (pattern.setList target items first)
      (some (init.setList target items (first + pattern.listCount)))
  | .exportDecl span declaration => .exportDecl span (declaration.setList target items first)
  | .importDecl decl => .importDecl decl
  | .block span kind old =>
    .block span kind (if first = target then items else setListOf target items (first + 1) old)
  | .switchCase span none old =>
    .switchCase span none
      (if first = target then items else setListOf target items (first + 1) old)
  | .switchCase span (some test) old =>
    .switchCase span (some (test.setList target items first))
      (if first + test.listCount = target then items
        else setListOf target items (first + test.listCount + 1) old)
  | .other form children => .other form (setListOf target items first children)

/-- Several nodes in a row with `items` as their statement list number `target`. -/
def setListOf (target : Nat) (items : List Node) (first : Nat) : List Node → List Node
  | [] => []
  | node :: nodes =>
    node.setList target items first :: setListOf target items (first + node.listCount) nodes

end

theorem setListOf_append (target : Nat) (items : List Node) (first : Nat)
    (left right : List Node) :
    setListOf target items first (left ++ right) =
      setListOf target items first left
        ++ setListOf target items (first + listCountOf left) right := by
  induction left generalizing first with
  | nil => simp [setListOf]
  | cons node nodes ih => simp [setListOf, ih, Nat.add_assoc]

end Node

namespace Program

/-- The statement lists of a program, in the order of their numbers. -/
def lists (program : Program) : List (List Node) := program.body :: Node.listsOf program.body

/-- The program with `items` as its statement list number `target`. -/
def setList (program : Program) (target : Nat) (items : List Node) : Program :=
  { program with
    body := if target = 0 then items else Node.setListOf target items 1 program.body }

end Program

end MarkerExpansion
