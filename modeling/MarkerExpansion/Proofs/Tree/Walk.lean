import MarkerExpansion.Proofs.Tree.Context

/-!
The walk through a program, node by node.

Every node is visited before its children, and its children are visited in their order. A visit
knows its place, so that what is said about the visits of a walk is said about places in the
program.
-/

namespace MarkerExpansion

/-- A node at its place. -/
structure Visit where
  context : Context
  node : Node

namespace Node

mutual

/-- The visits of a walk through a node that stands at `context`. -/
def walk (context : Context) : Node → List Visit
  | .ident identifier => [⟨context, .ident identifier⟩]
  | .binder identifier none => [⟨context, .binder identifier none⟩]
  | .binder identifier (some typing) =>
    ⟨context, .binder identifier (some typing)⟩
      :: typing.walk (.frame context (.binderTyping identifier))
  | .word span name => [⟨context, .word span name⟩]
  | .call span number callee arguments none =>
    ⟨context, .call span number callee arguments none⟩
      :: (callee.walk (.frame context (.callCallee span number arguments none))
        ++ walkRow (.arguments context span number callee none) [] arguments)
  | .call span number callee arguments (some typeArguments) =>
    ⟨context, .call span number callee arguments (some typeArguments)⟩
      :: (callee.walk (.frame context (.callCallee span number arguments (some typeArguments)))
        ++ walkRow (.arguments context span number callee (some typeArguments)) [] arguments
        ++ typeArguments.walk (.frame context (.callTypeArguments span number callee arguments)))
  | .argument spread value =>
    ⟨context, .argument spread value⟩ :: value.walk (.frame context (.argumentValue spread))
  | .member span object property =>
    ⟨context, .member span object property⟩
      :: (object.walk (.frame context (.memberObject span property))
        ++ property.walk (.frame context (.memberProperty span object)))
  | .paren span inner =>
    ⟨context, .paren span inner⟩ :: inner.walk (.frame context (.parenInner span))
  | .exprStmt span expression =>
    ⟨context, .exprStmt span expression⟩ :: expression.walk (.frame context (.statement span))
  | .varDecl span header declarators =>
    ⟨context, .varDecl span header declarators⟩
      :: walkRow (.declarators context span header) [] declarators
  | .declarator span definite pattern none =>
    ⟨context, .declarator span definite pattern none⟩
      :: pattern.walk (.frame context (.declaratorPattern span definite none))
  | .declarator span definite pattern (some init) =>
    ⟨context, .declarator span definite pattern (some init)⟩
      :: (pattern.walk (.frame context (.declaratorPattern span definite (some init)))
        ++ init.walk (.frame context (.declaratorInit span definite pattern)))
  | .exportDecl span declaration =>
    ⟨context, .exportDecl span declaration⟩
      :: declaration.walk (.frame context (.exportDeclaration span))
  | .importDecl decl => [⟨context, .importDecl decl⟩]
  | .block span kind items =>
    ⟨context, .block span kind items⟩ :: walkRow (.block context span kind) [] items
  | .switchCase span none items =>
    ⟨context, .switchCase span none items⟩ :: walkRow (.branch context span none) [] items
  | .switchCase span (some test) items =>
    ⟨context, .switchCase span (some test) items⟩
      :: (test.walk (.frame context (.switchTest span items))
        ++ walkRow (.branch context span (some test)) [] items)
  | .other form children =>
    ⟨context, .other form children⟩ :: walkRow (.children context form) [] children

/-- The visits of a walk through the nodes of a row that come after those in `left`. -/
def walkRow (row : Row) (left : List Node) : List Node → List Visit
  | [] => []
  | node :: right => node.walk (.item row left right) ++ walkRow row (left ++ [node]) right

end

end Node

/-- The row that is the body of a program. -/
def Program.bodyRow (program : Program) : Row :=
  .body program.kind program.span program.interpreter

/-- The visits of a walk through a program. -/
def Program.walk (program : Program) : List Visit := Node.walkRow program.bodyRow [] program.body

/-- What a walk notes down at a visit to an identifier. -/
@[simp] def Visit.occurrence? (visit : Visit) : Option Occurrence :=
  let around := visit.context.around
  match visit.node with
  | .ident identifier => some ⟨identifier, around.isCallee, around.anchor⟩
  | .binder identifier _ => some ⟨identifier, false, around.anchor⟩
  | _ => none

namespace Node

mutual

/-- The occurrences in a node are the identifiers that a walk visits. -/
theorem filterMap_walk (context : Context) : ∀ node : Node,
    (node.walk context).filterMap Visit.occurrence? =
      node.occurrences context.first context.around
  | .ident identifier => by simp [walk, occurrences]
  | .binder identifier none => by simp [walk, occurrences]
  | .binder identifier (some typing) => by
    simp [walk, occurrences, filterMap_walk _ typing]
  | .word span name => by simp [walk, occurrences]
  | .call span number callee arguments none => by
    simp [walk, occurrences, List.filterMap_cons, filterMap_walk _ callee,
      filterMap_walkRow _ _ arguments, Row.container]
  | .call span number callee arguments (some typeArguments) => by
    simp [walk, occurrences, List.filterMap_cons, filterMap_walk _ callee,
      filterMap_walkRow _ _ arguments, filterMap_walk _ typeArguments, Row.container,
      Nat.add_assoc]
  | .argument spread value => by
    simp [walk, occurrences, List.filterMap_cons, filterMap_walk _ value]
  | .member span object property => by
    simp [walk, occurrences, List.filterMap_cons, filterMap_walk _ object,
      filterMap_walk _ property]
  | .paren span inner => by
    simp [walk, occurrences, List.filterMap_cons, filterMap_walk _ inner]
  | .exprStmt span expression => by
    simp [walk, occurrences, List.filterMap_cons, filterMap_walk _ expression]
  | .varDecl span header declarators => by
    simp [walk, occurrences, List.filterMap_cons, filterMap_walkRow _ _ declarators, Row.container]
  | .declarator span definite pattern none => by
    simp [walk, occurrences, List.filterMap_cons, filterMap_walk _ pattern]
  | .declarator span definite pattern (some init) => by
    simp [walk, occurrences, List.filterMap_cons, filterMap_walk _ pattern,
      filterMap_walk _ init]
  | .exportDecl span declaration => by
    simp [walk, occurrences, List.filterMap_cons, filterMap_walk _ declaration]
  | .importDecl decl => by simp [walk, occurrences]
  | .block span kind items => by
    simp [walk, occurrences, List.filterMap_cons, filterMap_walkRow _ _ items, Row.container]
  | .switchCase span none items => by
    simp [walk, occurrences, List.filterMap_cons, filterMap_walkRow _ _ items, Row.container]
  | .switchCase span (some test) items => by
    simp [walk, occurrences, List.filterMap_cons, filterMap_walk _ test,
      filterMap_walkRow _ _ items, Row.container]
  | .other form children => by
    simp [walk, occurrences, List.filterMap_cons, filterMap_walkRow _ _ children, Row.container]

theorem filterMap_walkRow (row : Row) (left : List Node) : ∀ nodes : List Node,
    (walkRow row left nodes).filterMap Visit.occurrence? =
      occurrencesOf row.container left.length (row.first + listCountOf left) row.anchor nodes
  | [] => by simp [walkRow, occurrencesOf]
  | node :: right => by
    simp [walkRow, occurrencesOf, filterMap_walk _ node, filterMap_walkRow _ _ right,
      Nat.add_assoc]

end

end Node

/-- The visits of a walk through a part of `program`, where `met` are the occurrences before that
part: every visit is to a node at its place, and its place knows what the walk has met. -/
def Visit.Trace (program : Program) : List Occurrence → List Visit → Prop
  | _, [] => True
  | met, visit :: visits =>
    visit.context.fill visit.node = program ∧ visit.context.before = met
      ∧ Trace program (met ++ visit.occurrence?.toList) visits

namespace Visit

theorem trace_append {program : Program} (met : List Occurrence) (left right : List Visit) :
    Trace program met (left ++ right) ↔
      Trace program met left ∧ Trace program (met ++ left.filterMap occurrence?) right := by
  induction left generalizing met with
  | nil => simp [Trace]
  | cons visit visits ih =>
    have hmet : visit.occurrence?.toList ++ visits.filterMap occurrence? =
        (visit :: visits).filterMap occurrence? := by
      cases h : visit.occurrence? <;> simp only [List.filterMap_cons, h] <;> rfl
    simp only [List.cons_append, Trace, ih, List.append_assoc, hmet, and_assoc]

/-- What a trace says about any one of its visits. -/
theorem Trace.visit {program : Program} {met : List Occurrence} {left right : List Visit}
    {visit : Visit} (htrace : Trace program met (left ++ visit :: right)) :
    visit.context.fill visit.node = program
      ∧ visit.context.before = met ++ left.filterMap occurrence? := by
  obtain ⟨hfill, hbefore, _⟩ := ((trace_append met left _).1 htrace).2
  exact ⟨hfill, hbefore⟩

end Visit

namespace Node

mutual

theorem trace_walk (context : Context) : ∀ node : Node,
    Visit.Trace (context.fill node) context.before (node.walk context)
  | .ident identifier => by simp [walk, Visit.Trace]
  | .binder identifier none => by simp [walk, Visit.Trace]
  | .binder identifier (some typing) => by
    simpa [walk, Visit.Trace] using trace_walk (.frame context (.binderTyping identifier)) typing
  | .word span name => by simp [walk, Visit.Trace]
  | .call span number callee arguments none => by
    have hcallee := trace_walk (.frame context (.callCallee span number arguments none)) callee
    have harguments := trace_walkRow (.arguments context span number callee none) [] arguments
    simpa [walk, Visit.Trace, Visit.trace_append, filterMap_walk, occurrencesOf]
      using And.intro hcallee harguments
  | .call span number callee arguments (some typeArguments) => by
    have hcallee := trace_walk
      (.frame context (.callCallee span number arguments (some typeArguments))) callee
    have harguments := trace_walkRow
      (.arguments context span number callee (some typeArguments)) [] arguments
    have htypeArguments := trace_walk
      (.frame context (.callTypeArguments span number callee arguments)) typeArguments
    simpa [walk, Visit.Trace, Visit.trace_append, filterMap_walk, filterMap_walkRow,
      occurrencesOf, Row.container] using And.intro hcallee (And.intro harguments htypeArguments)
  | .argument spread value => by
    simpa [walk, Visit.Trace] using trace_walk (.frame context (.argumentValue spread)) value
  | .member span object property => by
    have hobject := trace_walk (.frame context (.memberObject span property)) object
    have hproperty := trace_walk (.frame context (.memberProperty span object)) property
    simpa [walk, Visit.Trace, Visit.trace_append, filterMap_walk] using And.intro hobject hproperty
  | .paren span inner => by
    simpa [walk, Visit.Trace] using trace_walk (.frame context (.parenInner span)) inner
  | .exprStmt span expression => by
    simpa [walk, Visit.Trace] using trace_walk (.frame context (.statement span)) expression
  | .varDecl span header declarators => by
    simpa [walk, Visit.Trace, occurrencesOf]
      using trace_walkRow (.declarators context span header) [] declarators
  | .declarator span definite pattern none => by
    simpa [walk, Visit.Trace]
      using trace_walk (.frame context (.declaratorPattern span definite none)) pattern
  | .declarator span definite pattern (some init) => by
    have hpattern := trace_walk
      (.frame context (.declaratorPattern span definite (some init))) pattern
    have hinit := trace_walk (.frame context (.declaratorInit span definite pattern)) init
    simpa [walk, Visit.Trace, Visit.trace_append, filterMap_walk] using And.intro hpattern hinit
  | .exportDecl span declaration => by
    simpa [walk, Visit.Trace]
      using trace_walk (.frame context (.exportDeclaration span)) declaration
  | .importDecl decl => by simp [walk, Visit.Trace]
  | .block span kind items => by
    simpa [walk, Visit.Trace, occurrencesOf]
      using trace_walkRow (.block context span kind) [] items
  | .switchCase span none items => by
    simpa [walk, Visit.Trace, occurrencesOf]
      using trace_walkRow (.branch context span none) [] items
  | .switchCase span (some test) items => by
    have htest := trace_walk (.frame context (.switchTest span items)) test
    have hitems := trace_walkRow (.branch context span (some test)) [] items
    simpa [walk, Visit.Trace, Visit.trace_append, filterMap_walk, occurrencesOf]
      using And.intro htest hitems
  | .other form children => by
    simpa [walk, Visit.Trace, occurrencesOf]
      using trace_walkRow (.children context form) [] children

theorem trace_walkRow (row : Row) (left : List Node) : ∀ nodes : List Node,
    Visit.Trace (row.fill (left ++ nodes))
      (row.before ++ occurrencesOf row.container 0 row.first row.anchor left)
      (walkRow row left nodes)
  | [] => by simp [walkRow, Visit.Trace]
  | node :: right => by
    have hnode := trace_walk (.item row left right) node
    have hright := trace_walkRow row (left ++ [node]) right
    simpa [walkRow, Visit.trace_append, filterMap_walk, occurrencesOf_append, occurrencesOf]
      using And.intro hnode hright

end

end Node

namespace Program

theorem trace_walk (program : Program) : Visit.Trace program [] program.walk := by
  simpa [walk, bodyRow, Node.occurrencesOf] using Node.trace_walkRow program.bodyRow [] program.body

theorem fill_of_mem_walk {program : Program} {visit : Visit} (hvisit : visit ∈ program.walk) :
    visit.context.fill visit.node = program := by
  obtain ⟨earlier, later, hwalk⟩ := List.append_of_mem hvisit
  exact (Visit.Trace.visit (hwalk ▸ program.trace_walk)).1

theorem filterMap_walk (program : Program) :
    program.walk.filterMap Visit.occurrence? = program.occurrences := by
  simpa [walk, bodyRow, Row.container, occurrences]
    using Node.filterMap_walkRow program.bodyRow [] program.body

end Program

namespace Node

/-- A node is visited before what is inside it. -/
theorem exists_walk_eq_cons (context : Context) (node : Node) :
    ∃ inside, node.walk context = ⟨context, node⟩ :: inside := by
  unfold walk
  split <;> exact ⟨_, rfl⟩

theorem mem_walk_self (context : Context) (node : Node) : ⟨context, node⟩ ∈ node.walk context := by
  obtain ⟨inside, hwalk⟩ := node.exists_walk_eq_cons context
  rw [hwalk]
  exact List.mem_cons_self

/-- The nodes of a row are walked through one after the other. -/
theorem walkRow_suffix (row : Row) (earlier left nodes : List Node) :
    walkRow row (earlier ++ left) nodes <:+ walkRow row earlier (left ++ nodes) := by
  induction left generalizing earlier with
  | nil => simp
  | cons node left ih =>
    have hleft := ih (earlier ++ [node])
    rw [List.append_assoc, List.singleton_append] at hleft
    rw [List.cons_append, walkRow]
    exact hleft.trans (List.suffix_append _ _)

theorem exists_walkRow_eq (row : Row) (earlier left : List Node) (node : Node)
    (right : List Node) :
    ∃ before, walkRow row earlier (left ++ node :: right) =
      before ++ node.walk (.item row (earlier ++ left) right)
        ++ walkRow row (earlier ++ left ++ [node]) right := by
  obtain ⟨before, hbefore⟩ := walkRow_suffix row earlier left (node :: right)
  rw [walkRow, ← List.append_assoc] at hbefore
  exact ⟨before, hbefore.symm⟩

end Node

/-- The walk through a node has the walk through each of its children as a part. -/
theorem Frame.walk_infix (frame : Frame) (outer : Context) (node : Node) :
    node.walk (.frame outer frame) <:+: (frame.fill node).walk outer := by
  cases frame with
  | callCallee span context arguments typeArguments =>
    cases typeArguments with
    | none =>
      rw [fill, Node.walk]
      exact List.infix_cons (List.prefix_append _ _).isInfix
    | some typeArguments =>
      rw [fill, Node.walk, List.append_assoc]
      exact List.infix_cons (List.prefix_append _ _).isInfix
  | callTypeArguments span context callee arguments =>
    rw [fill, Node.walk]
    exact List.infix_cons (List.suffix_append _ _).isInfix
  | memberObject span property =>
    rw [fill, Node.walk]
    exact List.infix_cons (List.prefix_append _ _).isInfix
  | memberProperty span object =>
    rw [fill, Node.walk]
    exact List.infix_cons (List.suffix_append _ _).isInfix
  | declaratorPattern span definite init =>
    cases init with
    | none =>
      rw [fill, Node.walk]
      exact List.infix_cons List.infix_rfl
    | some init =>
      rw [fill, Node.walk]
      exact List.infix_cons (List.prefix_append _ _).isInfix
  | declaratorInit span definite pattern =>
    rw [fill, Node.walk]
    exact List.infix_cons (List.suffix_append _ _).isInfix
  | switchTest span items =>
    rw [fill, Node.walk]
    exact List.infix_cons (List.prefix_append _ _).isInfix
  | _ =>
    rw [fill, Node.walk]
    exact List.infix_cons List.infix_rfl

theorem Frame.walk_subset (frame : Frame) (outer : Context) (node : Node) :
    node.walk (.frame outer frame) ⊆ (frame.fill node).walk outer :=
  (frame.walk_infix outer node).subset

/-- The node that the nodes of a row are the children of, and its place. The body of a program has
no such node. -/
def Row.parent? : Row → List Node → Option Visit
  | .body .., _ => none
  | .block outer span kind, nodes => some ⟨outer, .block span kind nodes⟩
  | .branch outer span test, nodes => some ⟨outer, .switchCase span test nodes⟩
  | .arguments outer span context callee typeArguments, nodes =>
    some ⟨outer, .call span context callee nodes typeArguments⟩
  | .declarators outer span header, nodes => some ⟨outer, .varDecl span header nodes⟩
  | .children outer form, nodes => some ⟨outer, .other form nodes⟩

theorem Row.walk_infix_parent {row : Row} {nodes : List Node} {parent : Visit}
    (hparent : row.parent? nodes = some parent) :
    Node.walkRow row [] nodes <:+: parent.node.walk parent.context := by
  cases row with
  | body => cases hparent
  | branch outer span test =>
    cases hparent
    cases test with
    | none =>
      rw [Node.walk]
      exact List.infix_cons List.infix_rfl
    | some test =>
      rw [Node.walk]
      exact List.infix_cons (List.suffix_append _ _).isInfix
  | arguments outer span context callee typeArguments =>
    cases hparent
    cases typeArguments with
    | none =>
      rw [Node.walk]
      exact List.infix_cons (List.suffix_append _ _).isInfix
    | some typeArguments =>
      rw [Node.walk]
      exact List.infix_cons (List.infix_append _ _ _)
  | _ =>
    cases hparent
    rw [Node.walk]
    exact List.infix_cons List.infix_rfl

theorem Row.walk_subset_parent {row : Row} {nodes : List Node} {parent : Visit}
    (hparent : row.parent? nodes = some parent) :
    Node.walkRow row [] nodes ⊆ parent.node.walk parent.context :=
  (Row.walk_infix_parent hparent).subset

theorem Node.walk_infix_row (row : Row) (left : List Node) (node : Node) (right : List Node) :
    node.walk (.item row left right) <:+: walkRow row [] (left ++ node :: right) := by
  obtain ⟨before, hrow⟩ := exists_walkRow_eq row [] left node right
  rw [hrow, List.nil_append]
  exact List.infix_append ..

theorem Node.walk_subset_row (row : Row) (left : List Node) (node : Node) (right : List Node) :
    node.walk (.item row left right) ⊆ walkRow row [] (left ++ node :: right) :=
  (node.walk_infix_row row left right).subset

mutual

/-- Every place in a program is visited, in one go with what is inside it. -/
theorem Context.walk_infix (node : Node) : ∀ context : Context,
    node.walk context <:+: (context.fill node).walk
  | .frame outer frame => (frame.walk_infix outer node).trans (outer.walk_infix (frame.fill node))
  | .item row left right =>
    (node.walk_infix_row row left right).trans (row.walk_infix (left ++ node :: right))

theorem Row.walk_infix (nodes : List Node) : ∀ row : Row,
    Node.walkRow row [] nodes <:+: (row.fill nodes).walk
  | .body .. => List.infix_rfl
  | .block outer _ _ => (Row.walk_infix_parent rfl).trans (outer.walk_infix _)
  | .branch outer _ _ => (Row.walk_infix_parent rfl).trans (outer.walk_infix _)
  | .arguments outer _ _ _ _ => (Row.walk_infix_parent rfl).trans (outer.walk_infix _)
  | .declarators outer _ _ => (Row.walk_infix_parent rfl).trans (outer.walk_infix _)
  | .children outer _ => (Row.walk_infix_parent rfl).trans (outer.walk_infix _)

end

theorem Context.walk_subset (node : Node) (context : Context) :
    node.walk context ⊆ (context.fill node).walk :=
  (context.walk_infix node).subset

theorem Visit.mem_walk (visit : Visit) : visit ∈ (visit.context.fill visit.node).walk :=
  visit.context.walk_subset visit.node (Node.mem_walk_self visit.context visit.node)

end MarkerExpansion
