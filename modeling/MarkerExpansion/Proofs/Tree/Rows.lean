import MarkerExpansion.Proofs.Tree.Walk

/-!
Statement lists at their places.

Two statement lists of a program can have the same items, as when a function was copied, so a list
is told apart from others by its place. The number of a list, by which its items are addressed, is
its position among all lists in the order in which a walk enters them.
-/

namespace MarkerExpansion

/-- A statement list at its place. -/
structure StatementList where
  row : Row
  items : List Node

namespace Node

mutual

/-- The statement lists of a node that stands at `context`, in the order in which a walk enters
them. -/
def statementLists (context : Context) : Node → List StatementList
  | .ident _ => []
  | .binder _ none => []
  | .binder identifier (some typing) =>
    typing.statementLists (.frame context (.binderTyping identifier))
  | .word _ _ => []
  | .call span number callee arguments none =>
    callee.statementLists (.frame context (.callCallee span number arguments none))
      ++ statementListsOf (.arguments context span number callee none) [] arguments
  | .call span number callee arguments (some typeArguments) =>
    callee.statementLists (.frame context (.callCallee span number arguments (some typeArguments)))
      ++ statementListsOf (.arguments context span number callee (some typeArguments)) [] arguments
      ++ typeArguments.statementLists
        (.frame context (.callTypeArguments span number callee arguments))
  | .argument spread value => value.statementLists (.frame context (.argumentValue spread))
  | .member span object property =>
    object.statementLists (.frame context (.memberObject span property))
      ++ property.statementLists (.frame context (.memberProperty span object))
  | .paren span inner => inner.statementLists (.frame context (.parenInner span))
  | .exprStmt span expression => expression.statementLists (.frame context (.statement span))
  | .varDecl span header declarators =>
    statementListsOf (.declarators context span header) [] declarators
  | .declarator span definite pattern none =>
    pattern.statementLists (.frame context (.declaratorPattern span definite none))
  | .declarator span definite pattern (some init) =>
    pattern.statementLists (.frame context (.declaratorPattern span definite (some init)))
      ++ init.statementLists (.frame context (.declaratorInit span definite pattern))
  | .exportDecl span declaration =>
    declaration.statementLists (.frame context (.exportDeclaration span))
  | .importDecl _ => []
  | .block span kind items =>
    ⟨.block context span kind, items⟩ :: statementListsOf (.block context span kind) [] items
  | .switchCase span none items =>
    ⟨.branch context span none, items⟩ :: statementListsOf (.branch context span none) [] items
  | .switchCase span (some test) items =>
    test.statementLists (.frame context (.switchTest span items))
      ++ ⟨.branch context span (some test), items⟩
        :: statementListsOf (.branch context span (some test)) [] items
  | .other form children => statementListsOf (.children context form) [] children

/-- The statement lists of the nodes of a row that come after those in `left`. -/
def statementListsOf (row : Row) (left : List Node) : List Node → List StatementList
  | [] => []
  | node :: right =>
    node.statementLists (.item row left right) ++ statementListsOf row (left ++ [node]) right

end

end Node

/-- Statement lists whose numbers are the `count` numbers from `first` on. -/
def Numbered (first count : Nat) (lists : List StatementList) : Prop :=
  lists.map (fun list => list.row.number?) = (List.range' first count).map some

namespace Numbered

variable {first count : Nat} {lists : List StatementList}

theorem nil : Numbered first 0 [] := rfl

theorem append {rest : Nat} {others : List StatementList} (hlists : Numbered first count lists)
    (hothers : Numbered (first + count) rest others) :
    Numbered first (count + rest) (lists ++ others) := by
  unfold Numbered at hlists hothers ⊢
  rw [List.map_append, hlists, hothers, ← List.map_append, List.range'_append_1]

theorem cons {list : StatementList} (hlist : list.row.number? = some first)
    (hlists : Numbered (first + 1) count lists) : Numbered first (count + 1) (list :: lists) := by
  unfold Numbered at hlists ⊢
  rw [List.map_cons, hlist, hlists, List.range'_succ, List.map_cons]

/-- The number of a list tells its position. -/
theorem number?_of_getElem? (hlists : Numbered 0 count lists) {number : Nat} {list : StatementList}
    (hlist : lists[number]? = some list) : list.row.number? = some number := by
  have hnumber := congrArg (fun numbers => numbers[number]?) hlists
  simp only [List.getElem?_map, hlist, Option.map_some] at hnumber
  obtain ⟨other, hother, heq⟩ := Option.map_eq_some_iff.1 hnumber.symm
  obtain ⟨_, hvalue⟩ := List.getElem?_eq_some_iff.1 hother
  rw [List.getElem_range', Nat.one_mul, Nat.zero_add] at hvalue
  rw [← heq, hvalue]

end Numbered

namespace Node

mutual

/-- The statement lists of a node are numbered one after the other. -/
theorem numbered_statementLists (context : Context) : ∀ node : Node,
    Numbered context.first node.listCount (node.statementLists context)
  | .ident identifier => by simpa [statementLists, listCount, lists] using Numbered.nil
  | .binder identifier none => by simpa [statementLists, listCount, lists] using Numbered.nil
  | .binder identifier (some typing) => by
    simpa [statementLists, listCount, lists] using
      numbered_statementLists (.frame context (.binderTyping identifier)) typing
  | .word span name => by simpa [statementLists, listCount, lists] using Numbered.nil
  | .call span number callee arguments none => by
    simpa [statementLists, listCount, listCountOf, lists, listsOf] using
      (numbered_statementLists (.frame context (.callCallee span number arguments none))
        callee).append
        (numbered_statementListsOf (.arguments context span number callee none) [] arguments)
  | .call span number callee arguments (some typeArguments) => by
    have hcallee := numbered_statementLists
      (.frame context (.callCallee span number arguments (some typeArguments))) callee
    have harguments := numbered_statementListsOf
      (.arguments context span number callee (some typeArguments)) [] arguments
    have htypeArguments := numbered_statementLists
      (.frame context (.callTypeArguments span number callee arguments)) typeArguments
    simpa [statementLists, listCount, listCountOf, lists, listsOf, Nat.add_assoc] using
      (hcallee.append harguments).append htypeArguments
  | .argument spread value => by
    simpa [statementLists, listCount, lists] using
      numbered_statementLists (.frame context (.argumentValue spread)) value
  | .member span object property => by
    simpa [statementLists, listCount, lists] using
      (numbered_statementLists (.frame context (.memberObject span property)) object).append
        (numbered_statementLists (.frame context (.memberProperty span object)) property)
  | .paren span inner => by
    simpa [statementLists, listCount, lists] using
      numbered_statementLists (.frame context (.parenInner span)) inner
  | .exprStmt span expression => by
    simpa [statementLists, listCount, lists] using
      numbered_statementLists (.frame context (.statement span)) expression
  | .varDecl span header declarators => by
    simpa [statementLists, listCount, listCountOf, lists, listsOf] using
      numbered_statementListsOf (.declarators context span header) [] declarators
  | .declarator span definite pattern none => by
    simpa [statementLists, listCount, lists] using
      numbered_statementLists (.frame context (.declaratorPattern span definite none)) pattern
  | .declarator span definite pattern (some init) => by
    simpa [statementLists, listCount, lists] using
      (numbered_statementLists (.frame context (.declaratorPattern span definite (some init)))
        pattern).append
        (numbered_statementLists (.frame context (.declaratorInit span definite pattern)) init)
  | .exportDecl span declaration => by
    simpa [statementLists, listCount, lists] using
      numbered_statementLists (.frame context (.exportDeclaration span)) declaration
  | .importDecl decl => by simpa [statementLists, listCount, lists] using Numbered.nil
  | .block span kind items => by
    simpa [statementLists, listCount, listCountOf, lists, listsOf] using
      (numbered_statementListsOf (.block context span kind) [] items).cons rfl
  | .switchCase span none items => by
    simpa [statementLists, listCount, listCountOf, lists, listsOf] using
      (numbered_statementListsOf (.branch context span none) [] items).cons rfl
  | .switchCase span (some test) items => by
    simpa [statementLists, listCount, listCountOf, lists, listsOf] using
      (numbered_statementLists (.frame context (.switchTest span items)) test).append
        ((numbered_statementListsOf (.branch context span (some test)) [] items).cons rfl)
  | .other form children => by
    simpa [statementLists, listCount, listCountOf, lists, listsOf] using
      numbered_statementListsOf (.children context form) [] children

theorem numbered_statementListsOf (row : Row) (left : List Node) : ∀ nodes : List Node,
    Numbered (row.first + listCountOf left) (listCountOf nodes) (statementListsOf row left nodes)
  | [] => by simpa [statementListsOf] using Numbered.nil
  | node :: right => by
    have hnode := numbered_statementLists (.item row left right) node
    have hright := numbered_statementListsOf row (left ++ [node]) right
    rw [listCountOf_append, listCountOf_cons, listCountOf_nil, Nat.add_zero, ← Nat.add_assoc]
      at hright
    simpa [statementListsOf] using hnode.append hright

end

end Node

/-- The statement lists of a program, each at its place, in the order in which a walk enters
them. -/
def Program.statementLists (program : Program) : List StatementList :=
  ⟨program.bodyRow, program.body⟩ :: Node.statementListsOf program.bodyRow [] program.body

theorem Program.numbered_statementLists (program : Program) :
    Numbered 0 (Node.listCountOf program.body + 1) program.statementLists :=
  (Node.numbered_statementListsOf program.bodyRow [] program.body).cons rfl

theorem Frame.statementLists_subset (frame : Frame) (outer : Context) (node : Node) :
    node.statementLists (.frame outer frame) ⊆ (frame.fill node).statementLists outer := by
  intro list hlist
  cases frame with
  | callCallee span number arguments typeArguments =>
    cases typeArguments <;> simp [Node.statementLists, hlist]
  | declaratorPattern span definite init => cases init <;> simp [Node.statementLists, hlist]
  | _ => simp [Node.statementLists, hlist]

theorem Node.statementListsOf_subset (row : Row) (left nodes : List Node) :
    statementListsOf row left nodes ⊆ statementListsOf row [] (left ++ nodes) := by
  have hall (earlier : List Node) : statementListsOf row (earlier ++ left) nodes ⊆
      statementListsOf row earlier (left ++ nodes) := by
    induction left generalizing earlier with
    | nil => simp
    | cons node left ih =>
      have hleft := ih (earlier ++ [node])
      rw [List.append_assoc, List.singleton_append] at hleft
      rw [List.cons_append, statementListsOf]
      exact List.subset_append_of_subset_right _ hleft
  exact hall []

theorem Node.statementLists_subset_row (row : Row) (left : List Node) (node : Node)
    (right : List Node) :
    node.statementLists (.item row left right) ⊆
      statementListsOf row [] (left ++ node :: right) := by
  refine List.Subset.trans ?_ (statementListsOf_subset row left (node :: right))
  rw [statementListsOf]
  exact List.subset_append_left _ _

/-- The row is one of the lists of the node that it belongs to, and so are the lists in it. -/
theorem Row.statementLists_subset_parent {row : Row} {nodes : List Node} {parent : Visit}
    (hparent : row.parent? nodes = some parent) :
    (row.number?.isSome → ⟨row, nodes⟩ ∈ parent.node.statementLists parent.context) ∧
      Node.statementListsOf row [] nodes ⊆ parent.node.statementLists parent.context := by
  cases row with
  | body => cases hparent
  | branch outer span test =>
    cases hparent
    cases test <;> simp [Node.statementLists]
  | arguments outer span number callee typeArguments =>
    cases hparent
    cases typeArguments <;> simp [Node.statementLists, number?]
  | _ =>
    cases hparent
    simp [Node.statementLists, number?]

theorem Row.fill_of_parent? {row : Row} {nodes : List Node} {parent : Visit}
    (hparent : row.parent? nodes = some parent) :
    row.fill nodes = parent.context.fill parent.node := by
  cases row with
  | body => cases hparent
  | _ =>
    cases hparent
    rfl

mutual

/-- The lists of a node are lists of the program that it stands in. -/
theorem Context.statementLists_subset (node : Node) : ∀ context : Context,
    node.statementLists context ⊆ (context.fill node).statementLists
  | .frame outer frame =>
    List.Subset.trans (frame.statementLists_subset outer node)
      (outer.statementLists_subset (frame.fill node))
  | .item row left right =>
    List.Subset.trans (node.statementLists_subset_row row left right)
      (row.statementLists_subset (left ++ node :: right))

theorem Row.statementLists_subset (nodes : List Node) : ∀ row : Row,
    Node.statementListsOf row [] nodes ⊆ (row.fill nodes).statementLists
  | .body .. => List.subset_cons_self _ _
  | .block outer _ _ =>
    List.Subset.trans (Row.statementLists_subset_parent rfl).2 (outer.statementLists_subset _)
  | .branch outer _ _ =>
    List.Subset.trans (Row.statementLists_subset_parent rfl).2 (outer.statementLists_subset _)
  | .arguments outer _ _ _ _ =>
    List.Subset.trans (Row.statementLists_subset_parent rfl).2 (outer.statementLists_subset _)
  | .declarators outer _ _ =>
    List.Subset.trans (Row.statementLists_subset_parent rfl).2 (outer.statementLists_subset _)
  | .children outer _ =>
    List.Subset.trans (Row.statementLists_subset_parent rfl).2 (outer.statementLists_subset _)

end

/-- The number of a statement list is its position among the lists of the program. -/
theorem Row.getElem?_statementLists (row : Row) (items : List Node) (number : Nat) :
    (row.fill items).statementLists[number]? = some ⟨row, items⟩ ↔ row.number? = some number := by
  have hnumbered := (row.fill items).numbered_statementLists
  constructor
  · intro hlist
    exact hnumbered.number?_of_getElem? hlist
  · intro hnumber
    have hmem : ⟨row, items⟩ ∈ (row.fill items).statementLists := by
      cases hparent : row.parent? items with
      | none =>
        cases row with
        | body => exact List.mem_cons_self
        | _ => cases hparent
      | some parent =>
        rw [Row.fill_of_parent? hparent]
        refine parent.context.statementLists_subset parent.node ?_
        exact (Row.statementLists_subset_parent hparent).1 (by rw [hnumber]; rfl)
    obtain ⟨position, hposition⟩ := List.mem_iff_getElem?.1 hmem
    have hsame := hnumbered.number?_of_getElem? hposition
    rw [hnumber] at hsame
    cases hsame
    exact hposition

end MarkerExpansion
