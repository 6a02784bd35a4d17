import MarkerExpansion.Tree.Occurrence

/-!
Places in a program.

A place is a program with a hole: a context has a hole for one node, a row a hole for all nodes that
stand side by side as children of one node, or as the body of the program. What a walk knows when it
comes to a hole depends on nothing that stands after the hole.
-/

namespace MarkerExpansion

/-- A node with a hole for a child that stands alone. -/
inductive Frame where
  | binderTyping (identifier : Ident)
  | callCallee (span : Span) (context : Nat) (arguments : List Node) (typeArguments : Option Node)
  | callTypeArguments (span : Span) (context : Nat) (callee : Node) (arguments : List Node)
  | argumentValue (spread : Option Span)
  | memberObject (span : Span) (property : Node)
  | memberProperty (span : Span) (object : Node)
  | parenInner (span : Span)
  | statement (span : Span)
  | declaratorPattern (span : Span) (definite : Bool) (init : Option Node)
  | declaratorInit (span : Span) (definite : Bool) (pattern : Node)
  | exportDeclaration (span : Span)
  | switchTest (span : Span) (items : List Node)

mutual

/-- A program with a hole for a node. -/
inductive Context where
  | frame (outer : Context) (frame : Frame)
  /-- The hole is in a row, between the nodes on its left and those on its right. -/
  | item (row : Row) (left right : List Node)

/-- A program with a hole for a row of nodes. -/
inductive Row where
  | body (kind : ProgramKind) (span : Span) (interpreter : Option String)
  | block (outer : Context) (span : Span) (kind : BlockKind)
  | branch (outer : Context) (span : Span) (test : Option Node)
  | arguments (outer : Context) (span : Span) (context : Nat) (callee : Node)
      (typeArguments : Option Node)
  | declarators (outer : Context) (span : Span) (header : VarHeader)
  | children (outer : Context) (form : Form)

end

namespace Frame

@[simp] def fill : Frame → Node → Node
  | .binderTyping identifier, node => .binder identifier (some node)
  | .callCallee span context arguments typeArguments, node =>
    .call span context node arguments typeArguments
  | .callTypeArguments span context callee arguments, node =>
    .call span context callee arguments (some node)
  | .argumentValue spread, node => .argument spread node
  | .memberObject span property, node => .member span node property
  | .memberProperty span object, node => .member span object node
  | .parenInner span, node => .paren span node
  | .statement span, node => .exprStmt span node
  | .declaratorPattern span definite init, node => .declarator span definite node init
  | .declaratorInit span definite pattern, node => .declarator span definite pattern (some node)
  | .exportDeclaration span, node => .exportDecl span node
  | .switchTest span items, node => .switchCase span (some node) items

/-- How many statement lists a walk enters in the node before it comes to the hole. -/
@[simp] def listsBefore : Frame → Nat
  | .callTypeArguments _ _ callee arguments => callee.listCount + Node.listCountOf arguments
  | .memberProperty _ object => object.listCount
  | .declaratorInit _ _ pattern => pattern.listCount
  | _ => 0

/-- The surroundings of the hole, where `around` are those of the node. -/
@[simp] def around (around : Surroundings) : Frame → Surroundings
  | .callCallee .. => around.callee
  | .statement _ => around.statement
  | _ => around.inside

/-- The occurrences in the node before the hole. -/
@[simp] def before (first : Nat) (around : Surroundings) : Frame → List Occurrence
  | .binderTyping identifier => [⟨identifier, false, around.anchor⟩]
  | .callTypeArguments _ _ callee arguments =>
    callee.occurrences first around.callee
      ++ Node.occurrencesOf none 0 (first + callee.listCount) around.anchor arguments
  | .memberProperty _ object => object.occurrences first around.inside
  | .declaratorInit _ _ pattern => pattern.occurrences first around.inside
  | _ => []

end Frame

mutual

@[simp] def Context.fill : Context → Node → Program
  | .frame outer frame, node => outer.fill (frame.fill node)
  | .item row left right, node => row.fill (left ++ node :: right)

@[simp] def Row.fill : Row → List Node → Program
  | .body kind span interpreter, nodes => { kind, span, interpreter, body := nodes }
  | .block outer span kind, nodes => outer.fill (.block span kind nodes)
  | .branch outer span test, nodes => outer.fill (.switchCase span test nodes)
  | .arguments outer span context callee typeArguments, nodes =>
    outer.fill (.call span context callee nodes typeArguments)
  | .declarators outer span header, nodes => outer.fill (.varDecl span header nodes)
  | .children outer form, nodes => outer.fill (.other form nodes)

end

mutual

/-- The number of the first statement list in the hole. -/
@[simp] def Context.first : Context → Nat
  | .frame outer frame => outer.first + frame.listsBefore
  | .item row left _ => row.first + Node.listCountOf left

/-- The number of the first statement list in the nodes of the row. -/
@[simp] def Row.first : Row → Nat
  | .body .. => 1
  | .block outer .. => outer.first + 1
  | .branch outer _ none => outer.first + 1
  | .branch outer _ (some test) => outer.first + test.listCount + 1
  | .arguments outer _ _ callee _ => outer.first + callee.listCount
  | .declarators outer .. => outer.first
  | .children outer .. => outer.first

end

namespace Row

/-- The number of the row, if it is a statement list. -/
def number? : Row → Option Nat
  | .body .. => some 0
  | .block outer .. => some outer.first
  | .branch outer _ none => some outer.first
  | .branch outer _ (some test) => some (outer.first + test.listCount)
  | _ => none

/-- The number of the row, if it is a list that can hold marker calls: the body of the program, or a
block. -/
def container : Row → Option Nat
  | .body .. => some 0
  | .block outer .. => some outer.first
  | _ => none

theorem number?_of_container {row : Row} {number : Nat} (hrow : row.container = some number) :
    row.number? = some number := by
  cases row with
  | body => exact hrow
  | block => exact hrow
  | _ => cases hrow

end Row

mutual

/-- What a walk knows when it comes to the hole. -/
@[simp] def Context.around : Context → Surroundings
  | .frame outer frame => frame.around outer.around
  | .item row left _ =>
    ⟨row.container.map fun number => ⟨number, left.length⟩, row.anchor, false⟩

/-- The innermost expression statement around the row. -/
@[simp] def Row.anchor : Row → Anchor
  | .body .. => .absent
  | .block outer .. => outer.around.anchor
  | .branch outer .. => outer.around.anchor
  | .arguments outer .. => outer.around.anchor
  | .declarators outer .. => outer.around.anchor
  | .children outer .. => outer.around.anchor

end

mutual

/-- The occurrences that a walk meets before it comes to the hole. -/
@[simp] def Context.before : Context → List Occurrence
  | .frame outer frame => outer.before ++ frame.before outer.first outer.around
  | .item row left _ =>
    row.before ++ Node.occurrencesOf row.container 0 row.first row.anchor left

/-- The occurrences that a walk meets before it comes to the nodes of the row. -/
@[simp] def Row.before : Row → List Occurrence
  | .body .. => []
  | .block outer .. => outer.before
  | .branch outer _ none => outer.before
  | .branch outer _ (some test) =>
    outer.before ++ test.occurrences outer.first outer.around.inside
  | .arguments outer _ _ callee _ =>
    outer.before ++ callee.occurrences outer.first outer.around.callee
  | .declarators outer .. => outer.before
  | .children outer .. => outer.before

end

namespace Frame

theorem before_occurrences_fill (frame : Frame) (node : Node) (first : Nat)
    (around : Surroundings) :
    frame.before first around
        ++ node.occurrences (first + frame.listsBefore) (frame.around around) <+:
      (frame.fill node).occurrences first around := by
  cases frame with
  | callCallee span context arguments typeArguments =>
    cases typeArguments <;> simp [Node.occurrences]
  | callTypeArguments span context callee arguments =>
    simp [Node.occurrences, Nat.add_assoc]
  | declaratorPattern span definite init => cases init <;> simp [Node.occurrences]
  | _ => simp [Node.occurrences]

end Frame

mutual

/-- A walk through a program meets what stands before a place, then what stands at it. -/
theorem Context.before_occurrences_fill (node : Node) : ∀ context : Context,
    context.before ++ node.occurrences context.first context.around <+:
      (context.fill node).occurrences
  | .frame outer frame => by
    have hframe := frame.before_occurrences_fill node outer.first outer.around
    have houter := Context.before_occurrences_fill (frame.fill node) outer
    refine List.IsPrefix.trans ?_ houter
    simpa using hframe
  | .item row left right => by
    have hrow := Row.before_occurrences_fill (left ++ node :: right) row
    refine List.IsPrefix.trans ?_ hrow
    simp [Node.occurrencesOf_append, Node.occurrencesOf]

theorem Row.before_occurrences_fill (nodes : List Node) : ∀ row : Row,
    row.before ++ Node.occurrencesOf row.container 0 row.first row.anchor nodes <+:
      (row.fill nodes).occurrences
  | .body kind span interpreter => by simp [Row.container, Program.occurrences]
  | .block outer span kind => by
    simpa [Row.container, Node.occurrences]
      using Context.before_occurrences_fill (.block span kind nodes) outer
  | .branch outer span none => by
    simpa [Row.container, Node.occurrences]
      using Context.before_occurrences_fill (.switchCase span none nodes) outer
  | .branch outer span (some test) => by
    simpa [Row.container, Node.occurrences]
      using Context.before_occurrences_fill (.switchCase span (some test) nodes) outer
  | .arguments outer span context callee none => by
    simpa [Row.container, Node.occurrences]
      using Context.before_occurrences_fill (.call span context callee nodes none) outer
  | .arguments outer span context callee (some typeArguments) => by
    have houter := Context.before_occurrences_fill
      (.call span context callee nodes (some typeArguments)) outer
    refine List.IsPrefix.trans ?_ houter
    simp [Row.container, Node.occurrences]
  | .declarators outer span header => by
    simpa [Row.container, Node.occurrences]
      using Context.before_occurrences_fill (.varDecl span header nodes) outer
  | .children outer form => by
    simpa [Row.container, Node.occurrences]
      using Context.before_occurrences_fill (.other form nodes) outer

end

/-- What a walk meets before an item of a row depends on none of the items from there on. -/
theorem Row.before_item_prefix (row : Row) (left right nodes : List Node) :
    (Context.item row left right).before <+: (row.fill (left ++ nodes)).occurrences := by
  refine List.IsPrefix.trans ?_ (row.before_occurrences_fill (left ++ nodes))
  simp [Node.occurrencesOf_append]

end MarkerExpansion
