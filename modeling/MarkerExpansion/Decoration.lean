import MarkerExpansion.Error
import MarkerExpansion.Import
import MarkerExpansion.Tree.Lists

/-!
One step of an expansion: a marker call is carried out and removed.

The call `decorate(f, a, ...)` decorates the next variable declaration in its statement list: the
initializer becomes `f(a, ...)`, in which every argument `decorate.target` is replaced by the
initializer as it was. All conditions are checked before anything changes.
-/

namespace MarkerExpansion

/-- The property of the marker that stands for the decorated function. -/
def targetName : String := "target"

/-- What one marker call did. -/
structure Decorated where
  /-- The name of the decorator. -/
  decorator : String
  /-- The name that the decorated declaration declares, if its pattern is a name. -/
  target : Option String
  /-- How many arguments were replaced by the decorated function. -/
  placeholders : Nat
  deriving DecidableEq

/-- A variable declaration, with or without `export` in front. -/
structure Declaration where
  /-- The span of the export. -/
  exported : Option Span
  span : Span
  header : VarHeader
  declarators : List Node

namespace Declaration

def toNode (declaration : Declaration) : Node :=
  let node := .varDecl declaration.span declaration.header declaration.declarators
  declaration.exported.elim node fun span => .exportDecl span node

/-- The variable declaration that a node is. -/
def ofNode? : Node → Option Declaration
  | .varDecl span header declarators => some ⟨none, span, header, declarators⟩
  | .exportDecl exportSpan (.varDecl span header declarators) =>
    some ⟨some exportSpan, span, header, declarators⟩
  | _ => none

/-- The first variable declaration among some nodes, with the nodes before and after it. -/
def first? : List Node → Option (List Node × Declaration × List Node)
  | [] => none
  | node :: nodes =>
    match ofNode? node with
    | some declaration => some ([], declaration, nodes)
    | none =>
      (first? nodes).map fun (before, declaration, after) => (node :: before, declaration, after)

@[simp] theorem ofNode?_toNode (declaration : Declaration) :
    ofNode? declaration.toNode = some declaration := by
  obtain ⟨exported, span, header, declarators⟩ := declaration
  cases exported <;> rfl

theorem toNode_of_ofNode? {node : Node} {declaration : Declaration}
    (hnode : ofNode? node = some declaration) : declaration.toNode = node := by
  unfold ofNode? at hnode
  split at hnode
  all_goals cases hnode
  all_goals rfl

/-- The declaration found is the first: no node before it is one. -/
theorem first?_eq_some {nodes before after : List Node} {declaration : Declaration}
    (hfirst : first? nodes = some (before, declaration, after)) :
    nodes = before ++ declaration.toNode :: after ∧ ∀ node ∈ before, ofNode? node = none := by
  induction nodes generalizing before with
  | nil => cases hfirst
  | cons node nodes ih =>
    unfold first? at hfirst
    split at hfirst
    · next hnode =>
      cases hfirst
      simp [toNode_of_ofNode? hnode]
    · next hnode =>
      obtain ⟨⟨rest, _, _⟩, hrest, heq⟩ := Option.map_eq_some_iff.1 hfirst
      cases heq
      obtain ⟨hnodes, hnone⟩ := ih hrest
      exact ⟨by simp [hnodes], by simpa [hnode] using hnone⟩

end Declaration

/-- The function that a marker call decorates, and where it stands in the list after the call. -/
structure Target where
  before : List Node
  /-- The declaration, of which the one declarator is given by the next fields. -/
  declaration : Declaration
  span : Span
  definite : Bool
  pattern : Node
  init : Node
  after : List Node

namespace Target

/-- An arrow function or a call, which may give a function, in parentheses or not. -/
def isFunctionShaped (init : Node) : Bool := init.stripParens.isArrow || init.stripParens.isCall

/-- Finds what the marker call in the statement at `span` decorates, in the nodes after it. -/
def find (span : Span) (following : List Node) : Except Error Target :=
  match Declaration.first? following with
  | none => .error ⟨span, .noDeclaration⟩
  | some (before, declaration, after) =>
    match declaration.declarators with
    | [] => .error ⟨declaration.span, .noDeclarator⟩
    | [.declarator span definite pattern (some init)] =>
      if isFunctionShaped init then
        .ok { before, declaration, span, definite, pattern, init, after }
      else .error ⟨span, .notFunctionShaped⟩
    | [declarator] => .error ⟨declarator.span, .notFunctionShaped⟩
    | _ :: _ :: _ => .error ⟨declaration.span, .severalDeclarators⟩

/-- The name that the decorated declaration declares. -/
def name? (target : Target) : Option String :=
  match target.pattern with
  | .binder identifier _ => some identifier.symbol.name
  | _ => none

/-- The nodes after the marker call, with `init` as the initializer of the target. -/
def withInit (target : Target) (init : Node) : List Node :=
  let declarator := .declarator target.span target.definite target.pattern (some init)
  let declaration := { target.declaration with declarators := [declarator] }
  target.before ++ declaration.toNode :: target.after

end Target

/-- A marker call: the decorator and the arguments for it. -/
structure MarkerCall where
  decorator : Ident
  arguments : List Node

namespace MarkerCall

/-- Reads the marker call of the expression statement at `span`. Any plain call will do, whatever
its callee is called. -/
def ofStatement (span : Span) (expression : Node) : Except Error MarkerCall :=
  match expression.stripParens with
  | .call span _ (.ident _) arguments _ =>
    match arguments with
    | .argument none (.ident decorator) :: first :: rest =>
      .ok { decorator, arguments := first :: rest }
    | decorator :: _ :: _ => .error ⟨decorator.span, .decoratorNotIdentifier⟩
    | _ => .error ⟨span, .tooFewArguments⟩
  | .call span _ _ _ _ => .error ⟨span, .notPlainCall⟩
  | _ => .error ⟨span, .notPlainCall⟩

/-- Whether an argument stands for the decorated function: it is `decorate.target`, neither spread
nor in parentheses. The syntax context of the name does not count. -/
def isPlaceholder : Node → Bool
  | .argument none (.member _ (.ident object) (.word _ property)) =>
    object.symbol.name = markerName && property = targetName
  | _ => false

/-- An argument of the decorator, in which a placeholder is replaced by the function. -/
def fill (function argument : Node) : Node :=
  if isPlaceholder argument then .argument none function else argument

/-- The call of the decorator that takes the place of the function. -/
def expansion (call : MarkerCall) (function : Node) : Node :=
  .call .dummy 0 (.ident call.decorator) (call.arguments.map (fill function)) none

end MarkerCall

/-- Carries out the marker call at `index` of a statement list and removes it from the list. -/
def decorateAt (items : List Node) (index : Nat) : Except Error (List Node × Decorated) :=
  match items.drop index with
  | .exprStmt span expression :: following => do
    let target ← Target.find span following
    let call ← MarkerCall.ofStatement span expression
    return (items.take index ++ target.withInit (call.expansion target.init),
      { decorator := call.decorator.symbol.name
        target := target.name?
        placeholders := call.arguments.countP MarkerCall.isPlaceholder })
  | _ => .error ⟨.dummy, .notFound⟩

namespace Program

/-- Carries out the marker call at `slot`. -/
def decorate (program : Program) (slot : Slot) : Except Error (Program × Decorated) :=
  match program.lists[slot.container]? with
  | none => .error ⟨.dummy, .notFound⟩
  | some items => do
    let (items, decorated) ← decorateAt items slot.index
    return (program.setList slot.container items, decorated)

end Program

end MarkerExpansion
