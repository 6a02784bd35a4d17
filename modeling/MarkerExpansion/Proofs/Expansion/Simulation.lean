import MarkerExpansion.Proofs.Expansion.Calls

/-!
A run follows the tree.

The marker calls in a node are carried out between two moments of the run: when all that comes after
the node is expanded, and when the node is expanded too. So a run as a whole does what the expansion
from the inside out does.
-/

namespace MarkerExpansion

namespace Node

/-- Wherever a node stands in the program, a run that has expanded all that comes after it goes on
to expand the node, together with the marker call that begins with it. -/
def Followed (program : Program) (symbol : Symbol) (node : Node) : Prop :=
  ∀ context rest : Context, context.expandRest symbol = some rest → context.fill node = program →
    Runs program (rest.fill node) (context.calls symbol node).reverse
      ((node.expandInside symbol).bind (rest.finish symbol))

/-- Likewise for the last nodes of a row, and the marker calls among them. -/
def EachFollowed (program : Program) (symbol : Symbol) (nodes : List Node) : Prop :=
  ∀ (left : List Node) (row rest : Row), row.expandRest symbol = some rest →
    row.fill (left ++ nodes) = program →
      Runs program (rest.fill (left ++ nodes)) (row.calls symbol left nodes).reverse
        (((expandEach symbol nodes).bind (row.carry symbol)).map fun new =>
          rest.fill (left ++ new))

variable {program : Program} {symbol : Symbol}

/-- A node that is part of no marker call is expanded when its last part is. -/
theorem runs_inert {α : Type} {node : Node} {part : Option α} (build : α → Node)
    (hbuild : ∀ new, (build new).Inert symbol) (hnode : node.expandInside symbol = part.map build)
    {current : Program} {references : List Reference} {rest : Context}
    (hruns : Runs program current references (part.map fun new => rest.fill (build new))) :
    Runs program current references ((node.expandInside symbol).bind (rest.finish symbol)) := by
  rw [hnode]
  cases part with
  | none => exact hruns
  | some new =>
    rw [Option.map_some, Option.bind_some, Context.finish_of_inert (hbuild new)]
    exact hruns

/-- The run at a part of a node, if the part begins no marker call. -/
theorem Followed.under {node : Node} (hnode : node.Followed program symbol)
    (frame newFrame : Frame) {context rest : Context}
    (hrest : context.expandRest symbol = some rest)
    (hframe : frame.expandRest symbol = some newFrame)
    (hplain : ∀ node, (Context.frame rest newFrame).attempt symbol node = none)
    (hfill : context.fill (frame.fill node) = program) :
    Runs program (rest.fill (newFrame.fill node))
      ((Context.frame context frame).calls symbol node).reverse
      ((node.expandInside symbol).map fun new => rest.fill (newFrame.fill new)) := by
  have hinner : (Context.frame context frame).expandRest symbol = some (.frame rest newFrame) := by
    simp [Context.expandRest, hrest, hframe]
  have hruns := hnode (.frame context frame) (.frame rest newFrame) hinner hfill
  rw [Context.bind_finish hplain] at hruns
  exact hruns

/-- The run at the nodes of a row that can hold no marker calls. -/
theorem EachFollowed.under {nodes : List Node} (hnodes : EachFollowed program symbol nodes)
    (row rest : Row) (hrest : row.expandRest symbol = some rest) (hrow : row.container = none)
    (hfill : row.fill nodes = program) :
    Runs program (rest.fill nodes) (row.calls symbol [] nodes).reverse
      ((expandEach symbol nodes).map rest.fill) := by
  have hruns := hnodes [] row rest hrest hfill
  rw [Row.bind_carry hrow] at hruns
  exact hruns

namespace Followed

/-- Nothing happens at a node without calls and without parts. -/
theorem leaf {node : Node} (hinert : node.Inert symbol)
    (hnode : node.expandInside symbol = some node)
    (hreferences : ∀ context : Context, context.calls symbol node = []) :
    node.Followed program symbol := by
  intro context rest _ _
  rw [hreferences, hnode, Option.bind_some, Context.finish_of_inert hinert]
  exact Runs.nil program _

theorem ident (hname : symbol.name = markerName) (hcalls : program.CallsAreStatements symbol)
    (identifier : Ident) : Followed program symbol (.ident identifier) := by
  intro context rest hrest hfill
  exact runs_ident hname hcalls hrest hfill

theorem binder {typing : Node} (htyping : typing.Followed program symbol) (identifier : Ident) :
    Followed program symbol (.binder identifier (some typing)) := by
  intro context rest hrest hfill
  have htypingRuns := htyping.under (.binderTyping identifier) (.binderTyping identifier) hrest rfl
    (fun _ => rfl) hfill
  have hreferences : context.calls symbol (.binder identifier (some typing)) =
      (Context.frame context (.binderTyping identifier)).calls symbol typing := by
    rw [Context.calls, Node.occurrences, ← List.singleton_append, callsFrom_append]
    simp [Context.calls]
  rw [hreferences]
  refine runs_inert (fun new => .binder identifier (some new)) (fun _ => ⟨by simp, rfl, rfl⟩) ?_
    htypingRuns
  rw [Node.expandInside]
  cases typing.expandInside symbol <;> rfl

theorem call {callee : Node} {arguments : List Node} (hcallee : callee.Followed program symbol)
    (harguments : EachFollowed program symbol arguments) (span : Span) (number : Nat) :
    Followed program symbol (.call span number callee arguments none) := by
  intro context rest hrest hfill
  have hargumentsRuns := harguments.under (.arguments context span number callee none)
    (.arguments rest span number callee none) (by simp [Row.expandRest, hrest]) rfl hfill
  have hreferences : context.calls symbol (.call span number callee arguments none) =
      (Context.frame context (.callCallee span number arguments none)).calls symbol callee
        ++ (Row.arguments context span number callee none).calls symbol [] arguments := by
    simp [Context.calls, Row.calls, Node.occurrences, Node.occurrencesOf, Row.container]
  rw [hreferences, List.reverse_append]
  refine hargumentsRuns.append (by intro h; simp [Node.expandInside, h]) ?_
  intro new hnew
  have hcalleeRuns := hcallee
    (.frame context (.callCallee span number arguments none))
    (.frame rest (.callCallee span number new none))
    (by simp [Context.expandRest, Frame.expandRest, hrest, hnew]) hfill
  have hresult : ((Node.call span number callee arguments none).expandInside symbol).bind
      (rest.finish symbol) = (callee.expandInside symbol).bind
        ((Context.frame rest (.callCallee span number new none)).finish symbol) := by
    rw [Node.expandInside, hnew]
    cases callee.expandInside symbol <;> rfl
  rw [hresult]
  exact hcalleeRuns

theorem callWithTypes {callee typeArguments : Node} {arguments : List Node}
    (hcallee : callee.Followed program symbol)
    (htypeArguments : typeArguments.Followed program symbol)
    (harguments : EachFollowed program symbol arguments) (span : Span) (number : Nat) :
    Followed program symbol (.call span number callee arguments (some typeArguments)) := by
  intro context rest hrest hfill
  have htypeArgumentsRuns := htypeArguments.under (.callTypeArguments span number callee arguments)
    (.callTypeArguments span number callee arguments) hrest rfl (fun _ => rfl) hfill
  have hreferences :
      context.calls symbol (.call span number callee arguments (some typeArguments)) =
      (Context.frame context
          (.callCallee span number arguments (some typeArguments))).calls symbol callee
        ++ ((Row.arguments context span number callee
            (some typeArguments)).calls symbol [] arguments
          ++ (Context.frame context
            (.callTypeArguments span number callee arguments)).calls symbol typeArguments) := by
    simp [Context.calls, Row.calls, Node.occurrences, Node.occurrencesOf, Row.container,
      Nat.add_assoc]
  rw [hreferences, List.reverse_append, List.reverse_append, List.append_assoc]
  refine htypeArgumentsRuns.append (by intro h; simp [Node.expandInside, h]) ?_
  intro newTypeArguments hnewTypeArguments
  have hargumentsRuns := harguments.under
    (.arguments context span number callee (some typeArguments))
    (.arguments rest span number callee (some newTypeArguments))
    (by simp [Row.expandRest, hrest, hnewTypeArguments]) rfl hfill
  refine hargumentsRuns.append (by intro h; simp [Node.expandInside, h]) ?_
  intro new hnew
  have hcalleeRuns := hcallee
    (.frame context (.callCallee span number arguments (some typeArguments)))
    (.frame rest (.callCallee span number new (some newTypeArguments)))
    (by simp [Context.expandRest, Frame.expandRest, hrest, hnew, hnewTypeArguments]) hfill
  have hresult :
      ((Node.call span number callee arguments (some typeArguments)).expandInside symbol).bind
        (rest.finish symbol) = (callee.expandInside symbol).bind ((Context.frame rest
          (.callCallee span number new (some newTypeArguments))).finish symbol) := by
    rw [Node.expandInside, hnew, hnewTypeArguments]
    cases callee.expandInside symbol <;> rfl
  rw [hresult]
  exact hcalleeRuns

theorem argument {value : Node} (hvalue : value.Followed program symbol) (spread : Option Span) :
    Followed program symbol (.argument spread value) := by
  intro context rest hrest hfill
  have hvalueRuns := hvalue.under (.argumentValue spread) (.argumentValue spread) hrest rfl
    (fun _ => rfl) hfill
  have hreferences : context.calls symbol (.argument spread value) =
      (Context.frame context (.argumentValue spread)).calls symbol value := by
    simp [Context.calls, Node.occurrences]
  rw [hreferences]
  refine runs_inert (.argument spread) (fun _ => ⟨by simp, rfl, rfl⟩) ?_ hvalueRuns
  rw [Node.expandInside]
  cases value.expandInside symbol <;> rfl

theorem member {object property : Node} (hobject : object.Followed program symbol)
    (hproperty : property.Followed program symbol) (span : Span) :
    Followed program symbol (.member span object property) := by
  intro context rest hrest hfill
  have hpropertyRuns := hproperty.under (.memberProperty span object)
    (.memberProperty span object) hrest rfl (fun _ => rfl) hfill
  have hreferences : context.calls symbol (.member span object property) =
      (Context.frame context (.memberObject span property)).calls symbol object
        ++ (Context.frame context (.memberProperty span object)).calls symbol property := by
    simp [Context.calls, Node.occurrences]
  rw [hreferences, List.reverse_append]
  refine hpropertyRuns.append (by intro h; simp [Node.expandInside, h]) ?_
  intro new hnew
  have hobjectRuns := hobject.under (.memberObject span property)
    (.memberObject span new) hrest (by simp [Frame.expandRest, hnew]) (fun _ => rfl) hfill
  refine runs_inert (fun object => .member span object new) (fun _ => ⟨by simp, rfl, rfl⟩) ?_
    hobjectRuns
  rw [Node.expandInside, hnew]
  cases object.expandInside symbol <;> rfl

theorem paren {inner : Node} (hinner : inner.Followed program symbol) (span : Span) :
    Followed program symbol (.paren span inner) := by
  intro context rest hrest hfill
  have hinnerRuns := hinner (.frame context (.parenInner span))
    (.frame rest (.parenInner span))
    (by simp [Context.expandRest, Frame.expandRest, hrest]) hfill
  have hreferences : context.calls symbol (.paren span inner) =
      (Context.frame context (.parenInner span)).calls symbol inner := by
    simp [Context.calls, Node.occurrences]
  have hresult : ((Node.paren span inner).expandInside symbol).bind (rest.finish symbol) =
      (inner.expandInside symbol).bind
        ((Context.frame rest (.parenInner span)).finish symbol) := by
    rw [Node.expandInside]
    cases inner.expandInside symbol <;> rfl
  rw [hreferences, hresult]
  exact hinnerRuns

theorem exprStmt {expression : Node} (hexpression : expression.Followed program symbol)
    (span : Span) : Followed program symbol (.exprStmt span expression) := by
  intro context rest hrest hfill
  have hexpressionRuns := hexpression (.frame context (.statement span))
    (.frame rest (.statement span))
    (by simp [Context.expandRest, Frame.expandRest, hrest]) hfill
  have hreferences : context.calls symbol (.exprStmt span expression) =
      (Context.frame context (.statement span)).calls symbol expression := by
    simp [Context.calls, Node.occurrences]
  have hresult : ((Node.exprStmt span expression).expandInside symbol).bind
      (rest.finish symbol) = (expression.expandInside symbol).bind
        ((Context.frame rest (.statement span)).finish symbol) := by
    rw [Node.expandInside]
    cases expression.expandInside symbol <;> rfl
  rw [hreferences, hresult]
  exact hexpressionRuns

theorem varDecl {declarators : List Node} (hdeclarators : EachFollowed program symbol declarators)
    (span : Span) (header : VarHeader) :
    Followed program symbol (.varDecl span header declarators) := by
  intro context rest hrest hfill
  have hdeclaratorsRuns := hdeclarators.under (.declarators context span header)
    (.declarators rest span header) (by simp [Row.expandRest, hrest]) rfl hfill
  have hreferences : context.calls symbol (.varDecl span header declarators) =
      (Row.declarators context span header).calls symbol [] declarators := by
    simp [Context.calls, Row.calls, Node.occurrences, Node.occurrencesOf, Row.container]
  rw [hreferences]
  refine runs_inert (.varDecl span header) (fun _ => ⟨by simp, rfl, rfl⟩) ?_ hdeclaratorsRuns
  rw [Node.expandInside]
  cases Node.expandEach symbol declarators <;> rfl

theorem declarator {pattern : Node} (hpattern : pattern.Followed program symbol) (span : Span)
    (definite : Bool) : Followed program symbol (.declarator span definite pattern none) := by
  intro context rest hrest hfill
  have hpatternRuns := hpattern.under (.declaratorPattern span definite none)
    (.declaratorPattern span definite none) hrest rfl (fun _ => rfl) hfill
  have hreferences : context.calls symbol (.declarator span definite pattern none) =
      (Context.frame context (.declaratorPattern span definite none)).calls symbol pattern := by
    simp [Context.calls, Node.occurrences]
  rw [hreferences]
  refine runs_inert (fun pattern => .declarator span definite pattern none)
    (fun _ => ⟨by simp, rfl, rfl⟩) ?_ hpatternRuns
  rw [Node.expandInside]
  cases pattern.expandInside symbol <;> rfl

theorem declaratorWithInit {pattern init : Node} (hpattern : pattern.Followed program symbol)
    (hinit : init.Followed program symbol) (span : Span) (definite : Bool) :
    Followed program symbol (.declarator span definite pattern (some init)) := by
  intro context rest hrest hfill
  have hinitRuns := hinit.under (.declaratorInit span definite pattern)
    (.declaratorInit span definite pattern) hrest rfl (fun _ => rfl) hfill
  have hreferences : context.calls symbol (.declarator span definite pattern (some init)) =
      (Context.frame context
          (.declaratorPattern span definite (some init))).calls symbol pattern
        ++ (Context.frame context
          (.declaratorInit span definite pattern)).calls symbol init := by
    simp [Context.calls, Node.occurrences]
  rw [hreferences, List.reverse_append]
  refine hinitRuns.append (by intro h; simp [Node.expandInside, h]) ?_
  intro new hnew
  have hpatternRuns := hpattern.under (.declaratorPattern span definite (some init))
    (.declaratorPattern span definite (some new)) hrest (by simp [Frame.expandRest, hnew])
    (fun _ => rfl) hfill
  refine runs_inert (fun pattern => .declarator span definite pattern (some new))
    (fun _ => ⟨by simp, rfl, rfl⟩) ?_ hpatternRuns
  rw [Node.expandInside, hnew]
  cases pattern.expandInside symbol <;> rfl

theorem exportDecl {declaration : Node} (hdeclaration : declaration.Followed program symbol)
    (span : Span) : Followed program symbol (.exportDecl span declaration) := by
  intro context rest hrest hfill
  have hdeclarationRuns := hdeclaration.under (.exportDeclaration span)
    (.exportDeclaration span) hrest rfl (fun _ => rfl) hfill
  have hreferences : context.calls symbol (.exportDecl span declaration) =
      (Context.frame context (.exportDeclaration span)).calls symbol declaration := by
    simp [Context.calls, Node.occurrences]
  rw [hreferences]
  refine runs_inert (.exportDecl span) (fun _ => ⟨by simp, rfl, rfl⟩) ?_ hdeclarationRuns
  rw [Node.expandInside]
  cases declaration.expandInside symbol <;> rfl

theorem block {items : List Node} (hitems : EachFollowed program symbol items) (span : Span)
    (kind : BlockKind) : Followed program symbol (.block span kind items) := by
  intro context rest hrest hfill
  have hitemsRuns := hitems [] (.block context span kind)
    (.block rest span kind) (by simp [Row.expandRest, hrest]) hfill
  have hreferences : context.calls symbol (.block span kind items) =
      (Row.block context span kind).calls symbol [] items := by
    simp [Context.calls, Row.calls, Node.occurrences, Node.occurrencesOf, Row.container]
  rw [hreferences]
  refine runs_inert (.block span kind) (fun _ => ⟨by simp, rfl, rfl⟩) ?_ hitemsRuns
  rw [Node.expandInside]
  cases Node.expandEach symbol items with
  | none => rfl
  | some inside =>
    have hcarry : (Row.block context span kind).carry symbol inside =
      Node.carryOut symbol inside := rfl
    rw [Option.bind_some, hcarry]
    cases hcarried : Node.carryOut symbol inside <;> simp [hcarried]

theorem switchDefault {items : List Node} (hitems : EachFollowed program symbol items)
    (span : Span) : Followed program symbol (.switchCase span none items) := by
  intro context rest hrest hfill
  have hitemsRuns := hitems.under (.branch context span none) (.branch rest span none)
    (by simp [Row.expandRest, hrest]) rfl hfill
  have hreferences : context.calls symbol (.switchCase span none items) =
      (Row.branch context span none).calls symbol [] items := by
    simp [Context.calls, Row.calls, Node.occurrences, Node.occurrencesOf, Row.container]
  rw [hreferences]
  refine runs_inert (.switchCase span none) (fun _ => ⟨by simp, rfl, rfl⟩) ?_ hitemsRuns
  rw [Node.expandInside]
  cases Node.expandEach symbol items <;> rfl

theorem switchCase {test : Node} {items : List Node} (htest : test.Followed program symbol)
    (hitems : EachFollowed program symbol items) (span : Span) :
    Followed program symbol (.switchCase span (some test) items) := by
  intro context rest hrest hfill
  have hitemsRuns := hitems.under (.branch context span (some test)) (.branch rest span (some test))
    (by simp [Row.expandRest, hrest]) rfl hfill
  have hreferences : context.calls symbol (.switchCase span (some test) items) =
      (Context.frame context (.switchTest span items)).calls symbol test
        ++ (Row.branch context span (some test)).calls symbol [] items := by
    simp [Context.calls, Row.calls, Node.occurrences, Node.occurrencesOf, Row.container]
  rw [hreferences, List.reverse_append]
  refine hitemsRuns.append (by intro h; simp [Node.expandInside, h]) ?_
  intro new hnew
  have htestRuns := htest.under (.switchTest span items)
    (.switchTest span new) hrest (by simp [Frame.expandRest, hnew]) (fun _ => rfl) hfill
  refine runs_inert (fun test => .switchCase span (some test) new)
    (fun _ => ⟨by simp, rfl, rfl⟩) ?_ htestRuns
  rw [Node.expandInside, hnew]
  cases test.expandInside symbol <;> rfl

theorem other {children : List Node} (hchildren : EachFollowed program symbol children)
    (form : Form) : Followed program symbol (.other form children) := by
  intro context rest hrest hfill
  have hchildrenRuns := hchildren.under (.children context form) (.children rest form)
    (by simp [Row.expandRest, hrest]) rfl hfill
  have hreferences : context.calls symbol (.other form children) =
      (Row.children context form).calls symbol [] children := by
    simp [Context.calls, Row.calls, Node.occurrences, Node.occurrencesOf, Row.container]
  rw [hreferences]
  refine runs_inert (.other form) (fun _ => ⟨by simp, rfl, rfl⟩) ?_ hchildrenRuns
  rw [Node.expandInside]
  cases Node.expandEach symbol children <;> rfl

end Followed

namespace EachFollowed

theorem nil : EachFollowed program symbol [] := by
  intro left row rest _ _
  have hcarry : row.carry symbol [] = some [] := by simp [Row.carry, Node.carryOut]
  have hreferences : row.calls symbol left [] = [] := by simp [Row.calls, Node.occurrencesOf]
  rw [hreferences, Node.expandEach, Option.bind_some, hcarry]
  exact Runs.nil program _

theorem cons {node : Node} {right : List Node} (hnode : node.Followed program symbol)
    (hright : EachFollowed program symbol right) :
    EachFollowed program symbol (node :: right) := by
  intro left row rest hrest hfill
  have hrightRuns := hright (left ++ [node]) row rest hrest (by simpa using hfill)
  rw [Row.calls_cons, List.reverse_append]
  rw [List.append_assoc, List.singleton_append] at hrightRuns
  have hresult := row.carry_expandEach_cons symbol node right
  refine hrightRuns.append (by intro h; rw [hresult, h]; rfl) ?_
  intro new hnew
  have hitem : (Context.item row left right).expandRest symbol = some (.item rest left new) := by
    obtain ⟨inside, hinside, hcarry⟩ := Option.bind_eq_some_iff.1 hnew
    simp [Context.expandRest, hrest, hinside, hcarry]
  have hnodeRuns := hnode (.item row left right) (.item rest left new) hitem hfill
  have hcontainer := (Row.expandRest_beginsLike hrest).container
  rw [hresult, hnew, Option.bind_some]
  cases hexpanded : node.expandInside symbol with
  | none => simpa [hexpanded] using hnodeRuns
  | some expanded =>
    rw [hexpanded, Option.bind_some, Context.finish_item, Row.carryFirst, hcontainer] at hnodeRuns
    simpa [Row.carryFirst] using hnodeRuns

end EachFollowed

mutual

theorem followed (hname : symbol.name = markerName) (hcalls : program.CallsAreStatements symbol) :
    ∀ node : Node, node.Followed program symbol
  | .ident identifier => .ident hname hcalls identifier
  | .binder _ none =>
    .leaf ⟨by simp, rfl, rfl⟩ rfl fun _ => by simp [Context.calls, occurrences]
  | .binder identifier (some typing) => .binder (followed hname hcalls typing) identifier
  | .word _ _ => .leaf ⟨by simp, rfl, rfl⟩ rfl fun _ => by simp [Context.calls, occurrences]
  | .call span number callee arguments none =>
    .call (followed hname hcalls callee) (eachFollowed hname hcalls arguments) span number
  | .call span number callee arguments (some typeArguments) =>
    .callWithTypes (followed hname hcalls callee) (followed hname hcalls typeArguments)
      (eachFollowed hname hcalls arguments) span number
  | .argument spread value => .argument (followed hname hcalls value) spread
  | .member span object property =>
    .member (followed hname hcalls object) (followed hname hcalls property) span
  | .paren span inner => .paren (followed hname hcalls inner) span
  | .exprStmt span expression => .exprStmt (followed hname hcalls expression) span
  | .varDecl span header declarators =>
    .varDecl (eachFollowed hname hcalls declarators) span header
  | .declarator span definite pattern none =>
    .declarator (followed hname hcalls pattern) span definite
  | .declarator span definite pattern (some init) =>
    .declaratorWithInit (followed hname hcalls pattern) (followed hname hcalls init) span definite
  | .exportDecl span declaration => .exportDecl (followed hname hcalls declaration) span
  | .importDecl _ => .leaf ⟨by simp, rfl, rfl⟩ rfl fun _ => by simp [Context.calls, occurrences]
  | .block span kind items => .block (eachFollowed hname hcalls items) span kind
  | .switchCase span none items => .switchDefault (eachFollowed hname hcalls items) span
  | .switchCase span (some test) items =>
    .switchCase (followed hname hcalls test) (eachFollowed hname hcalls items) span
  | .other form children => .other (eachFollowed hname hcalls children) form

theorem eachFollowed (hname : symbol.name = markerName)
    (hcalls : program.CallsAreStatements symbol) :
    ∀ nodes : List Node, EachFollowed program symbol nodes
  | [] => .nil
  | node :: right => .cons (followed hname hcalls node) (eachFollowed hname hcalls right)

end

end Node

/-- The run of all marker calls of a program, from the last to the first. -/
theorem Program.runs_calls {program : Program} {symbol : Symbol}
    (hname : symbol.name = markerName)
    (hcalls : program.CallsAreStatements symbol) :
    Runs program program (callsFrom symbol 0 program.occurrences).reverse
      (program.expandDirectly symbol) := by
  have hbody := Node.eachFollowed hname hcalls program.body [] program.bodyRow program.bodyRow rfl
    rfl
  have hreferences : program.bodyRow.calls symbol [] program.body =
      callsFrom symbol 0 program.occurrences := by
    simp [Row.calls, bodyRow, Node.occurrencesOf, Row.container, Program.occurrences]
  have hresult : program.expandDirectly symbol =
      ((Node.expandEach symbol program.body).bind (program.bodyRow.carry symbol)).map fun new =>
        program.bodyRow.fill ([] ++ new) := by
    rw [expandDirectly]
    cases Node.expandEach symbol program.body with
    | none => rfl
    | some items =>
      change (Node.carryOut symbol items).bind _ = (Node.carryOut symbol items).map _
      cases Node.carryOut symbol items <;> rfl
  rw [hreferences, ← hresult] at hbody
  exact hbody

end MarkerExpansion
