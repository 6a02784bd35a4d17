import MarkerExpansion.Decoration

/-!
Expansion from the inside out.

The direct way to expand a program follows its tree: first the statement lists inside every item of
a list are expanded, then the marker calls among the items themselves, from the last to the first.
No list or identifier is ever numbered.
-/

namespace MarkerExpansion

/-- Changes the initializer of a variable declaration. It must be an arrow function or a call, and
the declaration must have no other declarator. -/
def Declaration.changeInit (change : Node → Node) (declaration : Declaration) :
    Option Declaration :=
  match declaration.declarators with
  | [.declarator span definite pattern (some init)] =>
    if Target.isFunctionShaped init then
      some { declaration with
        declarators := [.declarator span definite pattern (some (change init))] }
    else none
  | _ => none

namespace Node

/-- Whether an expression is a call of `symbol`, parentheses aside. -/
def calls (symbol : Symbol) (node : Node) : Bool :=
  match node.stripParens with
  | .call _ _ (.ident callee) _ _ => callee.symbol = symbol
  | _ => false

/-- Whether an item of a statement list is a marker call, where the marker is bound to `symbol`. -/
def isMarkerCall (symbol : Symbol) : Node → Bool
  | .exprStmt _ expression => expression.calls symbol
  | _ => false

/-- What a marker call makes of the function that it decorates: its first argument applied to the
others, in which the function takes the place of every placeholder. -/
def decoration? (expression : Node) : Option (Node → Node) :=
  match expression.stripParens with
  | .call _ _ (.ident _) (.argument none (.ident decorator) :: first :: rest) _ =>
    some fun function =>
      .call .dummy 0 (.ident decorator) ((first :: rest).map (MarkerCall.fill function)) none
  | _ => none

/-- Changes the initializer of the first variable declaration among some items. -/
def changeFirst (change : Node → Node) : List Node → Option (List Node)
  | [] => none
  | item :: items =>
    match Declaration.ofNode? item with
    | none => (changeFirst change items).map fun items => item :: items
    | some declaration =>
      (declaration.changeInit change).map fun declaration => declaration.toNode :: items

/-- Carries out the marker calls among some items, from the last to the first, and deletes them. -/
def carryOut (symbol : Symbol) : List Node → Option (List Node)
  | [] => some []
  | .exprStmt span expression :: items => do
    let items ← carryOut symbol items
    if expression.calls symbol then changeFirst (← expression.decoration?) items
    else some (.exprStmt span expression :: items)
  | item :: items => do return item :: (← carryOut symbol items)

mutual

/-- The node with all statement lists in it expanded. -/
def expandInside (symbol : Symbol) : Node → Option Node
  | .ident identifier => some (.ident identifier)
  | .binder identifier none => some (.binder identifier none)
  | .binder identifier (some typing) => do
    return .binder identifier (some (← typing.expandInside symbol))
  | .word span name => some (.word span name)
  | .call span context callee arguments none => do
    return .call span context (← callee.expandInside symbol) (← expandEach symbol arguments) none
  | .call span context callee arguments (some typeArguments) => do
    return .call span context (← callee.expandInside symbol) (← expandEach symbol arguments)
      (some (← typeArguments.expandInside symbol))
  | .argument spread value => do return .argument spread (← value.expandInside symbol)
  | .member span object property => do
    return .member span (← object.expandInside symbol) (← property.expandInside symbol)
  | .paren span inner => do return .paren span (← inner.expandInside symbol)
  | .exprStmt span expression => do return .exprStmt span (← expression.expandInside symbol)
  | .varDecl span header declarators => do
    return .varDecl span header (← expandEach symbol declarators)
  | .declarator span definite pattern none => do
    return .declarator span definite (← pattern.expandInside symbol) none
  | .declarator span definite pattern (some init) => do
    return .declarator span definite (← pattern.expandInside symbol)
      (some (← init.expandInside symbol))
  | .exportDecl span declaration => do
    return .exportDecl span (← declaration.expandInside symbol)
  | .importDecl decl => some (.importDecl decl)
  | .block span kind items => do
    return .block span kind (← carryOut symbol (← expandEach symbol items))
  | .switchCase span none items => do
    return .switchCase span none (← expandEach symbol items)
  | .switchCase span (some test) items => do
    return .switchCase span (some (← test.expandInside symbol)) (← expandEach symbol items)
  | .other form children => do return .other form (← expandEach symbol children)

/-- Several nodes in a row with all statement lists in them expanded. -/
def expandEach (symbol : Symbol) : List Node → Option (List Node)
  | [] => some []
  | node :: nodes => do return (← node.expandInside symbol) :: (← expandEach symbol nodes)

end

end Node

theorem Node.changeFirst_eq (change : Node → Node) (items : List Node) :
    changeFirst change items =
      (Declaration.first? items).bind fun (before, declaration, after) =>
        (declaration.changeInit change).map fun declaration =>
          before ++ declaration.toNode :: after := by
  induction items with
  | nil => rfl
  | cons item items ih =>
    rw [changeFirst, Declaration.first?]
    cases Declaration.ofNode? item with
    | some declaration => rfl
    | none =>
      rw [ih]
      cases Declaration.first? items with
      | none => rfl
      | some found => simp [Function.comp_def]

/-- Changing the first declaration is changing the target of a marker call. -/
theorem Target.toOption_find (span : Span) (change : Node → Node) (items : List Node) :
    (find span items).toOption.map (fun target => target.withInit (change target.init)) =
      Node.changeFirst change items := by
  rw [Node.changeFirst_eq]
  unfold find
  cases Declaration.first? items with
  | none => rfl
  | some found =>
    obtain ⟨before, declaration, after⟩ := found
    simp only [Option.bind_some, Declaration.changeInit]
    match hdeclarators : declaration.declarators with
    | [] => rfl
    | _ :: _ :: _ => simp [Except.toOption]
    | [declarator] =>
      cases declarator with
      | declarator span definite pattern init =>
        cases init with
        | none => rfl
        | some init =>
          by_cases hshape : isFunctionShaped init <;> simp [hshape, Except.toOption, withInit]
      | _ => rfl

theorem MarkerCall.toOption_ofStatement (span : Span) (expression : Node) :
    (ofStatement span expression).toOption.map expansion = expression.decoration? := by
  unfold ofStatement Node.decoration?
  cases expression.stripParens with
  | call span context callee arguments typeArguments =>
    cases callee with
    | ident identifier =>
      match arguments with
      | [] => rfl
      | [_] => simp [Except.toOption]
      | decorator :: second :: rest =>
        cases decorator with
        | argument spread value =>
          cases spread <;> cases value <;> rfl
        | _ => rfl
    | _ => rfl
  | _ => rfl

namespace Node

/-- Carrying out a marker call is what a decoration does at the beginning of a list. -/
theorem toOption_decorateAt_zero (span : Span) (expression : Node) (items : List Node) :
    (decorateAt (.exprStmt span expression :: items) 0).toOption.map Prod.fst =
      expression.decoration?.bind fun change => changeFirst change items := by
  rw [← MarkerCall.toOption_ofStatement span]
  simp only [← Target.toOption_find span]
  change ((Target.find span items).bind _).toOption.map _ = _
  cases Target.find span items with
  | error error => cases MarkerCall.ofStatement span expression <;> rfl
  | ok target => cases MarkerCall.ofStatement span expression <;> rfl

theorem carryOut_cons (symbol : Symbol) (item : Node) (items : List Node) :
    carryOut symbol (item :: items) = (carryOut symbol items).bind fun items =>
      if item.isMarkerCall symbol then (decorateAt (item :: items) 0).toOption.map Prod.fst
      else some (item :: items) := by
  cases item with
  | exprStmt span expression =>
    rw [carryOut]
    simp only [toOption_decorateAt_zero, isMarkerCall]
    rfl
  | _ =>
    rw [carryOut]
    · rfl
    · simp

end Node

/-- The program with all marker calls expanded, where the marker is bound to `symbol`, or `none` if
one of them cannot be carried out. -/
def Program.expandDirectly (program : Program) (symbol : Symbol) : Option Program := do
  let items ← Node.expandEach symbol program.body
  return { program with body := ← Node.carryOut symbol items }

end MarkerExpansion
