import MarkerExpansion.Proofs.Expansion.Again

/-!
What an expansion leaves of the items of a program.

A marker call takes away its own statement and changes the initializer of one declaration. All else
that stands in the body of a program survives under its heading: the type and the span of the item,
and for a variable declaration what it declares. Statement lists inside the items are not looked
into, since marker calls are carried out there as well.
-/

namespace MarkerExpansion

namespace Node

/-- The type of a node. Arguments have none, nor has the function of a method. -/
def type? : Node → Option String
  | .ident _ => some "Identifier"
  | .binder _ _ => some "Identifier"
  | .word _ _ => some "Identifier"
  | .call .. => some "CallExpression"
  | .argument _ _ => none
  | .member .. => some "MemberExpression"
  | .paren _ _ => some "ParenthesisExpression"
  | .exprStmt _ _ => some "ExpressionStatement"
  | .varDecl .. => some "VariableDeclaration"
  | .declarator .. => some "VariableDeclarator"
  | .exportDecl _ _ => some "ExportDeclaration"
  | .importDecl _ => some "ImportDeclaration"
  | .block _ (.statement _) _ => some "BlockStatement"
  | .block _ .namespaceBody _ => some "TsModuleBlock"
  | .switchCase .. => some "SwitchCase"
  | .other form _ => form.kind

/-- The pattern of a declarator. -/
def pattern? : Node → Option Node
  | .declarator _ _ pattern _ => some pattern
  | _ => none

end Node

/-- The patterns of the declarators of a declaration. -/
def Declaration.patterns (declaration : Declaration) : List (Option Node) :=
  declaration.declarators.map Node.pattern?

/-- What an item of a program is known by. -/
structure Heading where
  type : Option String
  span : Span
  /-- For a variable declaration, exported or not: its kind, with what else it says besides its
  declarators, and the patterns of these, with the statement lists in them emptied. -/
  declares : Option (VarHeader × List (Option Node))

namespace Heading

def isStatement (heading : Heading) : Bool := heading.type = some "ExpressionStatement"

/-- The spans of the expression statements among some items, each with the number of other items
before it, where `before` is that of other items before them all. -/
def statementPlaces (before : Nat) : List Heading → List (Span × Nat)
  | [] => []
  | heading :: headings =>
    if heading.isStatement then (heading.span, before) :: statementPlaces before headings
    else statementPlaces (before + 1) headings

theorem statementPlaces_append (before : Nat) (left right : List Heading) :
    statementPlaces before (left ++ right) =
      statementPlaces before left
        ++ statementPlaces (before + left.countP (!·.isStatement)) right := by
  induction left generalizing before with
  | nil => simp [statementPlaces]
  | cons heading left ih =>
    by_cases hstatement : heading.isStatement
    · simp [statementPlaces, hstatement, ih]
    · simp [statementPlaces, hstatement, ih, Nat.add_assoc, Nat.add_comm 1]

end Heading

namespace Node

def heading (node : Node) : Heading where
  type := node.type?
  span := node.span
  declares := (Declaration.ofNode? node.outline).map fun declaration =>
    (declaration.header, declaration.patterns)

theorem type?_outline (node : Node) : node.outline.type? = node.type? := by
  cases node with
  | block span kind items => cases kind <;> simp [type?]
  | _ => simp [type?]

/-- Statement lists do not show in the heading of an item. -/
theorem heading_congr {node other : Node} (houtline : node.outline = other.outline) :
    node.heading = other.heading := by
  rw [heading, heading, ← type?_outline node, ← type?_outline other, ← span_outline node,
    ← span_outline other, houtline]

theorem map_heading_congr {nodes others : List Node}
    (houtlines : nodes.map outline = others.map outline) :
    nodes.map heading = others.map heading := by
  induction nodes generalizing others with
  | nil =>
    rw [List.map_eq_nil_iff.1 houtlines.symm]
  | cons node nodes ih =>
    cases others with
    | nil => cases houtlines
    | cons other others =>
      obtain ⟨hnode, hnodes⟩ := List.cons.inj houtlines
      rw [List.map_cons, List.map_cons, heading_congr hnode, ih hnodes]

end Node

/-- The initializers of a declaration do not show in its heading. -/
theorem Target.map_heading_withInit (target : Target) (init other : Node) :
    (target.withInit init).map Node.heading = (target.withInit other).map Node.heading := by
  obtain ⟨before, ⟨exported, _, _, _⟩, _⟩ := target
  cases exported <;>
    simp [withInit, Declaration.toNode, Node.heading, Node.type?, Node.span, Declaration.ofNode?,
      Declaration.patterns, Node.pattern?]

theorem Frame.outline_fill (frame : Frame) {node other : Node}
    (houtline : node.outline = other.outline) :
    (frame.fill node).outline = (frame.fill other).outline := by
  cases frame <;> simp [houtline]

mutual

/-- What a change inside the items of a program leaves of their outlines depends on the outline of
what is changed. -/
theorem Context.map_outline_body (node other : Node) (houtline : node.outline = other.outline) :
    ∀ context : Context,
    (context.fill node).body.map Node.outline = (context.fill other).body.map Node.outline
  | .frame outer frame =>
    outer.map_outline_body (frame.fill node) (frame.fill other) (frame.outline_fill houtline)
  | .item row left right =>
    row.map_outline_body (left ++ node :: right) (left ++ other :: right) (by simp [houtline])

theorem Row.map_outline_body (nodes others : List Node)
    (houtlines : nodes.map Node.outline = others.map Node.outline) : ∀ row : Row,
    (row.fill nodes).body.map Node.outline = (row.fill others).body.map Node.outline
  | .body _ _ _ => houtlines
  | .block outer span kind =>
    outer.map_outline_body (.block span kind nodes) (.block span kind others) (by simp)
  | .branch outer span test =>
    outer.map_outline_body (.switchCase span test nodes) (.switchCase span test others) (by simp)
  | .arguments outer span context callee typeArguments =>
    outer.map_outline_body (.call span context callee nodes typeArguments)
      (.call span context callee others typeArguments) (by simp [houtlines])
  | .declarators outer span header =>
    outer.map_outline_body (.varDecl span header nodes) (.varDecl span header others)
      (by simp [houtlines])
  | .children outer form =>
    outer.map_outline_body (.other form nodes) (.other form others) (by simp [houtlines])

end

/-- Headings of items that an expansion leaves of some items: expression statements may be gone, and
nothing else. -/
structure Heading.Left (earlier later : List Heading) : Prop where
  items : later.filter (!·.isStatement) = earlier.filter (!·.isStatement)
  statements : (statementPlaces 0 later).Sublist (statementPlaces 0 earlier)

namespace Heading.Left

theorem of_eq {earlier later : List Heading} (hlater : later = earlier) : Left earlier later := by
  subst hlater
  exact ⟨rfl, .refl _⟩

theorem trans {first second third : List Heading} (hfirst : Left first second)
    (hsecond : Left second third) : Left first third :=
  ⟨hsecond.items.trans hfirst.items, hsecond.statements.trans hfirst.statements⟩

theorem erase {heading : Heading} (hstatement : heading.isStatement) (left right : List Heading) :
    Left (left ++ heading :: right) (left ++ right) := by
  constructor
  · simp [hstatement]
  · rw [statementPlaces_append, statementPlaces_append, statementPlaces, if_pos hstatement]
    exact (List.sublist_cons_self _ _).append_left _

end Heading.Left

namespace Program

/-- The headings of the items of a program. -/
def headings (program : Program) : List Heading := program.body.map Node.heading

/-- What a marker call leaves of the items of a program. -/
theorem headings_decorate {program edited : Program} {slot : Slot} {decorated : Decorated}
    (hdecorate : program.decorate slot = .ok (edited, decorated)) :
    Heading.Left program.headings edited.headings := by
  obtain ⟨row, left, node, right, new, hnumber, _, rfl, rfl, hnew, _⟩ :=
    exists_place_of_decorate hdecorate
  cases row with
  | body kind span interpreter =>
    obtain ⟨span, expression, target, call, rfl, hfind, _, rfl, _⟩ :=
      exists_call_of_decorateAt_zero hnew
    have hright : (target.withInit (call.expansion target.init)).map Node.heading =
        right.map Node.heading := by
      rw [target.map_heading_withInit _ target.init, Target.withInit_init hfind]
    simp only [headings, Row.fill, List.map_append, List.map_cons, hright]
    exact .erase rfl _ _
  -- The list of the call is inside an item, where headings do not look.
  | block outer span kind =>
    have hinside := outer.map_outline_body (.block span kind (left ++ new))
      (.block span kind (left ++ node :: right)) (by simp)
    exact .of_eq (Node.map_heading_congr hinside)
  | branch outer span test =>
    have hinside := outer.map_outline_body (.switchCase span test (left ++ new))
      (.switchCase span test (left ++ node :: right)) (by simp)
    exact .of_eq (Node.map_heading_congr hinside)
  | _ => cases hnumber

/-- The items of a program that are not taken out as imports of the marker. -/
def untaken (program : Program) (config : Config) : List Node :=
  match program.kind, config.pattern with
  | .module, .ok pattern => program.body.filter fun item => (item.markerImport? pattern).isNone
  | _, _ => program.body

theorem body_takeImports (program : Program) {config : Config} {pattern : Pattern}
    (hpattern : config.pattern = .ok pattern) :
    (program.takeImports pattern).2.body = program.untaken config := by
  unfold takeImports untaken
  rw [hpattern]
  cases hkind : program.kind with
  | script => simp [markerImports, hkind]
  | module =>
    cases himports : program.markerImports pattern with
    | cons decl decls => rfl
    | nil =>
      simp only [markerImports, hkind, List.filterMap_eq_nil_iff] at himports
      refine (List.filter_eq_self.2 ?_).symm
      intro item hitem
      rw [himports item hitem]
      rfl

/-- What an expansion leaves of the items of a program, whether it succeeds or not. -/
theorem headings_expandImports (program : Program) (config : Config) :
    Heading.Left ((program.untaken config).map Node.heading)
      (program.expandImports config).program.headings := by
  unfold expandImports
  cases hpattern : config.pattern with
  | error error =>
    refine .of_eq ?_
    rw [untaken, hpattern]
    cases program.kind <;> rfl
  | ok pattern =>
    rw [← body_takeImports program hpattern]
    simp only
    cases htake : program.takeImports pattern with
    | mk bindings taken =>
      cases bindings with
      | none =>
        obtain rfl : program = taken := by
          unfold takeImports at htake
          split at htake
          · exact congrArg Prod.snd htake
          · cases htake
        exact .of_eq rfl
      | some bindings =>
        apply expand_invariant (motive := fun current =>
          Heading.Left taken.headings current.headings)
        · exact .of_eq rfl
        · intro before after slot decorated hdecorate hbefore
          exact hbefore.trans (headings_decorate hdecorate)

end Program

/-- Wherever an expansion ends, the items of a program are still there in their order, with what
their headings say. Only statements and the imports of the marker are taken out. -/
theorem declarations_survive_expansion (program : Program) (config : Config) :
    let expanded := (program.expandImports config).program
    let headings := (program.untaken config).map Node.heading
    expanded.headings.filter (!·.isStatement) = headings.filter (!·.isStatement) ∧
      (Heading.statementPlaces 0 expanded.headings).Sublist
        (Heading.statementPlaces 0 headings) := by
  intro expanded headings
  obtain ⟨hitems, hstatements⟩ := program.headings_expandImports config
  exact ⟨hitems, hstatements⟩

namespace Sample

/-- The program `const { a = () => { ... } } = make();`, with marker calls in the function. -/
def defaulting : Program where
  kind := .module
  span := ⟨0, 200⟩
  interpreter := none
  body :=
    [.varDecl ⟨60, 199⟩ ⟨"const", false, 0⟩
      [.declarator ⟨66, 198⟩ false
        (.other ⟨some "ObjectPattern", some ⟨66, 195⟩, [], [("properties", .many [true])]⟩
          [.other ⟨some "AssignmentPatternProperty", some ⟨68, 193⟩, [],
              [("key", .one), ("value", .one)]⟩
            [.binder (name "a" 68) none,
              .other ⟨some "ArrowFunctionExpression", some ⟨72, 193⟩, [], [("body", .one)]⟩
                [.block ⟨78, 193⟩ (.statement 0) body]]])
        (some made)]]

end Sample

/-- A marker call that stands inside the pattern of a declaration changes the pattern. -/
theorem pattern_changed_by_marker_call_inside :
    let program := Sample.importing Sample.defaulting
    let expansion := program.expandImports .default
    expansion.failure = none ∧
      (expansion.program.body.filterMap Declaration.ofNode?).map Declaration.patterns ≠
        (program.body.filterMap Declaration.ofNode?).map Declaration.patterns := by
  intro program expansion
  refine ⟨by with_unfolding_all rfl, ?_⟩
  intro hpatterns
  have hlengths := congrArg (fun patterns : List (List (Option Node)) =>
    patterns.flatten.map fun pattern => pattern.map fun node => node.lists.map List.length)
    hpatterns
  with_unfolding_all exact absurd hlengths (by decide)

end MarkerExpansion
