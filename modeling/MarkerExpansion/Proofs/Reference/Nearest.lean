import MarkerExpansion.Proofs.Reference.Address
import MarkerExpansion.Proofs.Reference.Locate
import MarkerExpansion.Proofs.Tree.Rows

/-!
The nearest expression statement around a reference.

What a walk carries along is compared here with what can be read off the tree. A reference stands
for one identifier, the nodes around it are its ancestors, and the first expression statement among
them decides, whatever statements are farther out.
-/

namespace MarkerExpansion

mutual

/-- The nodes around a node that stands at a place, from the innermost on. -/
def Context.ancestors : Context → Node → List Visit
  | .frame outer frame, node =>
    ⟨outer, frame.fill node⟩ :: outer.ancestors (frame.fill node)
  | .item row left right, node => row.ancestors (left ++ node :: right)

/-- The nodes around those of a row, from the innermost on. -/
def Row.ancestors : Row → List Node → List Visit
  | .body .., _ => []
  | .block outer span kind, nodes =>
    ⟨outer, .block span kind nodes⟩ :: outer.ancestors (.block span kind nodes)
  | .branch outer span test, nodes =>
    ⟨outer, .switchCase span test nodes⟩ :: outer.ancestors (.switchCase span test nodes)
  | .arguments outer span context callee typeArguments, nodes =>
    ⟨outer, .call span context callee nodes typeArguments⟩
      :: outer.ancestors (.call span context callee nodes typeArguments)
  | .declarators outer span header, nodes =>
    ⟨outer, .varDecl span header nodes⟩ :: outer.ancestors (.varDecl span header nodes)
  | .children outer form, nodes =>
    ⟨outer, .other form nodes⟩ :: outer.ancestors (.other form nodes)

end

namespace Visit

def ancestors (visit : Visit) : List Visit := visit.context.ancestors visit.node

/-- Whether a visit is to an expression statement. -/
def isStatement (visit : Visit) : Bool :=
  match visit.node with
  | .exprStmt .. => true
  | _ => false

/-- The innermost expression statement around a node. -/
def nearestStatement? (visit : Visit) : Option Visit := visit.ancestors.find? isStatement

end Visit

/-- Whether a row is the body of the program, a block or the body of a namespace. -/
def Row.isBlock : Row → Bool
  | .body .. => true
  | .block .. => true
  | _ => false

/-- What there is to say about a reference: which of these holds is read off the tree. Errors are
given by the place that they are reported at and by their text. -/
inductive Located (program : Program) (reference : Reference) :
    Except (Span × String) Slot → Prop
  /-- The walk does not come to that many identifiers. -/
  | missing (hvisit : program.visitOf? reference = none) :
    Located program reference (.error (reference.span, "Expression not found"))
  /-- The identifier is not the one that the reference was made for. -/
  | stale {visit : Visit} (hvisit : program.visitOf? reference = some visit)
      (hspan : visit.node.span ≠ reference.span) :
    Located program reference (.error (visit.node.span, "Expression not found"))
  /-- There is no expression statement around the identifier. -/
  | outside {visit : Visit} (hvisit : program.visitOf? reference = some visit)
      (hspan : visit.node.span = reference.span)
      (hancestors : ∀ ancestor ∈ visit.ancestors, ¬ancestor.isStatement) :
    Located program reference (.error (visit.node.span, "ExpressionStatement not found"))
  /-- The nearest expression statement is no item of a block, even if one farther out is. -/
  | loose {visit statement : Visit} (hvisit : program.visitOf? reference = some visit)
      (hspan : visit.node.span = reference.span)
      (hnearest : visit.nearestStatement? = some statement)
      (hplace : ∀ row left right, statement.context = .item row left right → ¬row.isBlock) :
    Located program reference
      (.error (visit.node.span, "Decorator should be inside block or program"))
  /-- The nearest expression statement is an item of a block. -/
  | item {visit statement : Visit} {row : Row} {left right : List Node} {number : Nat}
      (hvisit : program.visitOf? reference = some visit)
      (hspan : visit.node.span = reference.span)
      (hnearest : visit.nearestStatement? = some statement)
      (hplace : statement.context = .item row left right) (hblock : row.isBlock)
      (hnumber : program.statementLists[number]? =
        some ⟨row, left ++ statement.node :: right⟩) :
    Located program reference (.ok ⟨number, left.length⟩)

theorem Frame.isStatement_fill (frame : Frame) (outer : Context) (node : Node) :
    (∃ span, frame = .statement span) ∨ Visit.isStatement ⟨outer, frame.fill node⟩ = false := by
  cases frame with
  | statement span => exact .inl ⟨span, rfl⟩
  | _ => exact .inr rfl

/-- What the nearest statement among some nodes tells about those inside it. -/
def Anchor.ofStatement? (statement : Option Visit) : Anchor :=
  statement.elim .absent fun visit => visit.context.around.slot.elim .loose .at

mutual

/-- What a walk knows about the innermost statement around a place is what its ancestors tell. -/
theorem Context.anchor_eq_nearest (node : Node) : ∀ context : Context,
    context.around.anchor =
      Anchor.ofStatement? ((context.ancestors node).find? Visit.isStatement)
  | .frame outer frame => by
    rw [Context.ancestors]
    by_cases hframe : ∃ span, frame = .statement span
    · obtain ⟨span, rfl⟩ := hframe
      rfl
    · have hother := (frame.isStatement_fill outer node).resolve_left hframe
      have hanchor := (frame.statement_or_anchor outer.around).resolve_left hframe
      rw [Context.around, hanchor, List.find?_cons, hother]
      exact outer.anchor_eq_nearest (frame.fill node)
  | .item row left right => row.anchor_eq_nearest (left ++ node :: right)

theorem Row.anchor_eq_nearest (nodes : List Node) : ∀ row : Row,
    row.anchor = Anchor.ofStatement? ((row.ancestors nodes).find? Visit.isStatement)
  | .body .. => rfl
  | .block outer span kind => outer.anchor_eq_nearest (.block span kind nodes)
  | .branch outer span test => outer.anchor_eq_nearest (.switchCase span test nodes)
  | .arguments outer span context callee typeArguments =>
    outer.anchor_eq_nearest (.call span context callee nodes typeArguments)
  | .declarators outer span header => outer.anchor_eq_nearest (.varDecl span header nodes)
  | .children outer form => outer.anchor_eq_nearest (.other form nodes)

end

theorem Visit.fill_of_mem_cons {ancestor visit : Visit} {farther : List Visit}
    (hfarther : ancestor ∈ farther →
      ancestor.context.fill ancestor.node = visit.context.fill visit.node)
    (hmem : ancestor ∈ visit :: farther) :
    ancestor.context.fill ancestor.node = visit.context.fill visit.node := by
  obtain rfl | hmem := List.mem_cons.1 hmem
  · rfl
  · exact hfarther hmem

mutual

/-- An ancestor is a node of the same program. -/
theorem Context.fill_of_mem_ancestors {ancestor : Visit} (node : Node) : ∀ context : Context,
    ancestor ∈ context.ancestors node →
      ancestor.context.fill ancestor.node = context.fill node
  | .frame outer frame => Visit.fill_of_mem_cons (outer.fill_of_mem_ancestors (frame.fill node))
  | .item row left right => row.fill_of_mem_ancestors (left ++ node :: right)

theorem Row.fill_of_mem_ancestors {ancestor : Visit} (nodes : List Node) : ∀ row : Row,
    ancestor ∈ row.ancestors nodes → ancestor.context.fill ancestor.node = row.fill nodes
  | .body .. => fun hmem => by cases hmem
  | .block outer span kind =>
    Visit.fill_of_mem_cons (outer.fill_of_mem_ancestors (.block span kind nodes))
  | .branch outer span test =>
    Visit.fill_of_mem_cons (outer.fill_of_mem_ancestors (.switchCase span test nodes))
  | .arguments outer span context callee typeArguments =>
    Visit.fill_of_mem_cons
      (outer.fill_of_mem_ancestors (.call span context callee nodes typeArguments))
  | .declarators outer span header =>
    Visit.fill_of_mem_cons (outer.fill_of_mem_ancestors (.varDecl span header nodes))
  | .children outer form =>
    Visit.fill_of_mem_cons (outer.fill_of_mem_ancestors (.other form nodes))

end

theorem Row.container_eq_some_iff {row : Row} {number : Nat} :
    row.container = some number ↔ row.isBlock ∧ row.number? = some number := by
  cases row <;> simp [container, isBlock, number?]

/-- Only an item of a block has a slot: the number of the block and the index there. -/
theorem Context.slot_eq_some_iff {context : Context} {slot : Slot} :
    context.around.slot = some slot ↔ ∃ row left right, context = .item row left right ∧
      row.isBlock ∧ row.number? = some slot.container ∧ left.length = slot.index := by
  obtain ⟨number, index⟩ := slot
  constructor
  · intro hslot
    cases context with
    | frame outer frame => cases frame <;> cases hslot
    | item row left right =>
      obtain ⟨_, hcontainer, hslot⟩ := Option.map_eq_some_iff.1 hslot
      cases hslot
      obtain ⟨hblock, hnumber⟩ := Row.container_eq_some_iff.1 hcontainer
      exact ⟨row, left, right, rfl, hblock, hnumber, rfl⟩
  · rintro ⟨row, left, right, rfl, hblock, hnumber, rfl⟩
    rw [Context.around, Row.container_eq_some_iff.2 ⟨hblock, hnumber⟩]
    rfl

theorem Context.slot_eq_none_iff {context : Context} :
    context.around.slot = none ↔
      ∀ row left right, context = .item row left right → ¬row.isBlock := by
  constructor
  · rintro hslot row left right rfl hblock
    cases row <;> simp [Row.container, Row.isBlock] at hslot hblock
  · intro hplace
    rw [Option.eq_none_iff_forall_ne_some]
    intro slot hslot
    obtain ⟨row, left, right, hitem, hblock, _⟩ := slot_eq_some_iff.1 hslot
    exact hplace row left right hitem hblock

theorem Visit.span_of_occurrence? {visit : Visit} {occurrence : Occurrence}
    (hoccurrence : visit.occurrence? = some occurrence) :
    occurrence.ident.span = visit.node.span := by
  obtain ⟨context, node⟩ := visit
  cases node with
  | ident identifier =>
    cases hoccurrence
    rfl
  | binder identifier typing =>
    cases hoccurrence
    rfl
  | _ => cases hoccurrence

namespace Program

variable {program : Program} {reference : Reference}

theorem enclosingStatement_of_visitOf?_eq_none (hvisit : program.visitOf? reference = none) :
    program.enclosingStatement reference = .error ⟨reference.span, .notFound⟩ := by
  rw [enclosingStatement_eq_elim, getElem?_occurrencesOf_eq_visitOf?, hvisit]
  rfl

/-- The identifier that a reference stands for and the nodes around it settle the slot. -/
theorem enclosingStatement_of_visitOf? {visit : Visit}
    (hvisit : program.visitOf? reference = some visit) :
    program.enclosingStatement reference =
      if visit.node.span ≠ reference.span then .error ⟨visit.node.span, .notFound⟩
      else (Anchor.ofStatement? visit.nearestStatement?).resolve visit.node.span := by
  have hnames : visit.names reference.symbol :=
    (List.mem_filter.1 (List.mem_of_getElem? hvisit)).2
  cases hoccurrence : visit.occurrence? with
  | none =>
    rw [Visit.names, hoccurrence] at hnames
    cases hnames
  | some occurrence =>
    rw [enclosingStatement_eq_elim, getElem?_occurrencesOf_eq_visitOf?, hvisit, Option.bind_some,
      hoccurrence, Option.elim_some, Occurrence.locate, Visit.span_of_occurrence? hoccurrence,
      Visit.anchor_of_occurrence? hoccurrence, visit.context.anchor_eq_nearest visit.node]
    rfl

theorem fill_of_nearestStatement? {visit statement : Visit}
    (hvisit : program.visitOf? reference = some visit)
    (hnearest : visit.nearestStatement? = some statement) :
    statement.context.fill statement.node = program := by
  have hwalk := (List.mem_filter.1 (List.mem_of_getElem? hvisit)).1
  rw [← fill_of_mem_walk hwalk]
  exact visit.context.fill_of_mem_ancestors visit.node (List.mem_of_find?_eq_some hnearest)

end Program

/-- The slot that is found for a reference, or the reason why there is none, is what the tree says:
the walk that looks for it comes to the same answer, and there is only one. -/
theorem enclosingStatement_is_nearest (program : Program) (reference : Reference) :
    program.locate reference = program.enclosingStatement reference ∧
      ∀ answer, Located program reference answer ↔
        (program.enclosingStatement reference).mapError
          (fun error => (error.span, error.message)) = answer := by
  refine ⟨program.locate_eq_enclosingStatement reference, fun answer => ⟨?_, ?_⟩⟩
  · intro hlocated
    cases hlocated with
    | missing hvisit =>
      rw [Program.enclosingStatement_of_visitOf?_eq_none hvisit]
      rfl
    | stale hvisit hspan =>
      rw [Program.enclosingStatement_of_visitOf? hvisit, if_pos hspan]
      rfl
    | @outside visit hvisit hspan hancestors =>
      have hnone : visit.nearestStatement? = none := List.find?_eq_none.2 hancestors
      rw [Program.enclosingStatement_of_visitOf? hvisit, if_neg (not_not.2 hspan), hnone]
      rfl
    | @loose visit statement hvisit hspan hnearest hplace =>
      rw [Program.enclosingStatement_of_visitOf? hvisit, if_neg (not_not.2 hspan), hnearest,
        Anchor.ofStatement?, Option.elim_some, Context.slot_eq_none_iff.2 hplace]
      rfl
    | @item visit statement row left right number hvisit hspan hnearest hplace hblock hnumber =>
      have hrow := program.numbered_statementLists.number?_of_getElem? hnumber
      have hslot : statement.context.around.slot = some ⟨number, left.length⟩ :=
        Context.slot_eq_some_iff.2 ⟨row, left, right, hplace, hblock, hrow, rfl⟩
      rw [Program.enclosingStatement_of_visitOf? hvisit, if_neg (not_not.2 hspan), hnearest,
        Anchor.ofStatement?, Option.elim_some, hslot]
      rfl
  · rintro rfl
    cases hvisit : program.visitOf? reference with
    | none =>
      rw [Program.enclosingStatement_of_visitOf?_eq_none hvisit]
      exact .missing hvisit
    | some visit =>
      rw [Program.enclosingStatement_of_visitOf? hvisit]
      by_cases hspan : visit.node.span = reference.span
      · rw [if_neg (not_not.2 hspan)]
        cases hnearest : visit.nearestStatement? with
        | none => exact .outside hvisit hspan (List.find?_eq_none.1 hnearest)
        | some statement =>
          rw [Anchor.ofStatement?, Option.elim_some]
          cases hslot : statement.context.around.slot with
          | none =>
            exact .loose hvisit hspan hnearest (Context.slot_eq_none_iff.1 hslot)
          | some slot =>
            obtain ⟨number, index⟩ := slot
            obtain ⟨row, left, right, hplace, hblock, hnumber, rfl⟩ :=
              Context.slot_eq_some_iff.1 hslot
            have hlist :=
              (row.getElem?_statementLists (left ++ statement.node :: right) _).2 hnumber
            have hfill := Program.fill_of_nearestStatement? hvisit hnearest
            rw [hplace, Context.fill] at hfill
            rw [hfill] at hlist
            exact .item hvisit hspan hnearest hplace hblock hlist
      · rw [if_pos hspan]
        exact .stale hvisit hspan

end MarkerExpansion
