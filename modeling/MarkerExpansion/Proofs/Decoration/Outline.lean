import MarkerExpansion.Decoration

/-!
Outlines: what a decoration looks at.

Whether a marker call can be carried out, and what it reports, does not depend on what stands inside
the statement lists of its arguments and of the function that it decorates.
-/

namespace MarkerExpansion

namespace Node

mutual

/-- The node with all statement lists in it emptied. -/
@[simp] def outline : Node → Node
  | .ident identifier => .ident identifier
  | .binder identifier none => .binder identifier none
  | .binder identifier (some typing) => .binder identifier (some typing.outline)
  | .word span name => .word span name
  | .call span context callee arguments none =>
    .call span context callee.outline (outlines arguments) none
  | .call span context callee arguments (some typeArguments) =>
    .call span context callee.outline (outlines arguments) (some typeArguments.outline)
  | .argument spread value => .argument spread value.outline
  | .member span object property => .member span object.outline property.outline
  | .paren span inner => .paren span inner.outline
  | .exprStmt span expression => .exprStmt span expression.outline
  | .varDecl span header declarators => .varDecl span header (outlines declarators)
  | .declarator span definite pattern none => .declarator span definite pattern.outline none
  | .declarator span definite pattern (some init) =>
    .declarator span definite pattern.outline (some init.outline)
  | .exportDecl span declaration => .exportDecl span declaration.outline
  | .importDecl decl => .importDecl decl
  | .block span kind _ => .block span kind []
  | .switchCase span none _ => .switchCase span none []
  | .switchCase span (some test) _ => .switchCase span (some test.outline) []
  | .other form children => .other form (outlines children)

/-- The outlines of several nodes in a row. -/
@[simp] def outlines : List Node → List Node
  | [] => []
  | node :: nodes => node.outline :: outlines nodes

end

@[simp] theorem outlines_eq_map (nodes : List Node) : outlines nodes = nodes.map outline := by
  induction nodes with
  | nil => rfl
  | cons node nodes ih => rw [outlines, ih, List.map_cons]

@[simp] theorem outline_binder (identifier : Ident) (typing : Option Node) :
    outline (.binder identifier typing) = .binder identifier (typing.map outline) := by
  cases typing <;> simp

@[simp] theorem outline_call (span : Span) (context : Nat) (callee : Node) (arguments : List Node)
    (typeArguments : Option Node) :
    outline (.call span context callee arguments typeArguments) =
      .call span context callee.outline (arguments.map outline) (typeArguments.map outline) := by
  cases typeArguments <;> simp [outlines_eq_map]

@[simp] theorem outline_declarator (span : Span) (definite : Bool) (pattern : Node)
    (init : Option Node) :
    outline (.declarator span definite pattern init) =
      .declarator span definite pattern.outline (init.map outline) := by
  cases init <;> simp

@[simp] theorem outline_switchCase (span : Span) (test : Option Node) (items : List Node) :
    outline (.switchCase span test items) = .switchCase span (test.map outline) [] := by
  cases test <;> simp

theorem span_outline (node : Node) : node.outline.span = node.span := by
  fun_induction span node <;> simp_all [outline, span]

theorem stripParens_outline (node : Node) :
    node.outline.stripParens = node.stripParens.outline := by
  fun_induction stripParens node with
  | case1 span inner ih => simpa [outline, stripParens] using ih
  | case2 node hparen =>
    cases node with
    | paren span inner => exact absurd rfl (hparen span inner)
    | _ => simp [stripParens]

theorem isArrow_outline (node : Node) : node.outline.isArrow = node.isArrow := by
  cases node <;> simp [isArrow]

theorem isCall_outline (node : Node) : node.outline.isCall = node.isCall := by
  cases node <;> simp [isCall]

end Node

theorem Declaration.ofNode?_outline (node : Node) :
    ofNode? node.outline = (ofNode? node).map fun declaration =>
      { declaration with declarators := declaration.declarators.map Node.outline } := by
  cases node with
  | exportDecl span declaration => cases declaration <;> simp [ofNode?]
  | _ => simp [ofNode?]

theorem Declaration.first?_outline (nodes : List Node) :
    first? (nodes.map Node.outline) = (first? nodes).map fun (before, declaration, after) =>
      (before.map Node.outline,
        { declaration with declarators := declaration.declarators.map Node.outline },
        after.map Node.outline) := by
  induction nodes with
  | nil => rfl
  | cons node nodes ih =>
    rw [List.map_cons, first?, first?, ofNode?_outline, ih]
    cases ofNode? node with
    | some declaration => rfl
    | none => cases first? nodes <;> rfl

namespace Target

theorem isFunctionShaped_outline (init : Node) :
    isFunctionShaped init.outline = isFunctionShaped init := by
  rw [isFunctionShaped, isFunctionShaped, Node.stripParens_outline, Node.isArrow_outline,
    Node.isCall_outline]

/-- The name that the declaration after a marker call declares, or why it cannot be decorated. -/
def verdict (span : Span) (following : List Node) : Except Error (Option String) :=
  (find span following).map name?

theorem verdict_outline (span : Span) (following : List Node) :
    verdict span (following.map Node.outline) = verdict span following := by
  unfold verdict find
  rw [Declaration.first?_outline]
  cases Declaration.first? following with
  | none => rfl
  | some found =>
    obtain ⟨before, declaration, after⟩ := found
    simp only [Option.map_some]
    obtain ⟨exported, span, header, declarators⟩ := declaration
    match declarators with
    | [] => rfl
    | first :: second :: rest => simp
    | [declarator] =>
      cases declarator with
      | declarator span definite pattern init =>
        cases init with
        | none => simp [Node.span]
        | some init =>
          simp only [List.map_cons, List.map_nil, Node.outline_declarator, Option.map_some,
            isFunctionShaped_outline]
          split
          · simp only [Except.map, name?]
            cases pattern <;> simp
          · rfl
      | _ => simp [Node.span, Node.span_outline, Except.map]

end Target

namespace MarkerCall

theorem isPlaceholder_outline (argument : Node) :
    isPlaceholder argument.outline = isPlaceholder argument := by
  cases argument with
  | argument spread value =>
    cases value with
    | member span object property =>
      cases spread <;> cases object <;> cases property <;> simp [isPlaceholder]
    | _ => simp [isPlaceholder]
  | _ => simp [isPlaceholder]

theorem countP_isPlaceholder_outline (arguments : List Node) :
    (arguments.map Node.outline).countP isPlaceholder = arguments.countP isPlaceholder := by
  rw [List.countP_map]
  congr 1
  funext argument
  exact isPlaceholder_outline argument

/-- The decorator of a marker call and the number of its placeholders, or what is wrong with the
call. -/
def verdict (span : Span) (expression : Node) : Except Error (Ident × Nat) :=
  (ofStatement span expression).map fun call =>
    (call.decorator, call.arguments.countP isPlaceholder)

theorem verdict_outline (span : Span) (expression : Node) :
    verdict span expression.outline = verdict span expression := by
  unfold verdict ofStatement
  rw [Node.stripParens_outline]
  cases expression.stripParens with
  | call span context callee arguments typeArguments =>
    cases callee with
    | ident identifier =>
      match arguments with
      | [] => simp
      | [decorator] => simp
      | decorator :: second :: rest =>
        have hcount := countP_isPlaceholder_outline (second :: rest)
        cases decorator with
        | argument spread value =>
          cases spread with
          | some dots => simp [Node.span, Node.span_outline, Except.map]
          | none =>
            cases value with
            | ident identifier =>
              rw [List.map_cons] at hcount
              simp [Except.map, hcount]
            | _ => simp [Node.span, Node.span_outline, Except.map]
        | _ => simp [Node.span, Except.map]
    | _ => simp
  | _ => simp

end MarkerCall

theorem decorateAt_zero (span : Span) (expression : Node) (following : List Node) :
    decorateAt (.exprStmt span expression :: following) 0 = (do
      let target ← Target.find span following
      let call ← MarkerCall.ofStatement span expression
      return (target.withInit (call.expansion target.init),
        { decorator := call.decorator.symbol.name
          target := target.name?
          placeholders := call.arguments.countP MarkerCall.isPlaceholder })) := rfl

/-- The outcome of a marker call follows from what it finds and from the call itself. -/
theorem decorateAt_zero_verdict (span : Span) (expression : Node) (following : List Node) :
    (decorateAt (.exprStmt span expression :: following) 0).map Prod.snd = (do
      let target ← Target.verdict span following
      let (decorator, placeholders) ← MarkerCall.verdict span expression
      return { decorator := decorator.symbol.name, target, placeholders }) := by
  rw [decorateAt_zero, Target.verdict, MarkerCall.verdict]
  cases Target.find span following with
  | error error => rfl
  | ok target => cases MarkerCall.ofStatement span expression <;> rfl

end MarkerExpansion
