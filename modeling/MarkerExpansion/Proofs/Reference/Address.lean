import Mathlib.Data.List.Induction
import MarkerExpansion.Proofs.Decoration.Earlier
import MarkerExpansion.Proofs.Decoration.Outline

/-!
The address of the statement around a reference.

References are numbered among the identifiers of a program, statements among its lists. A reference
that is looked up in the program it was collected from leads to the identifier that it was made for,
and from there to the statement that the identifier stands in.
-/

namespace MarkerExpansion

namespace References

theorem get?_cons (key other : String) (uses : List Reference) (references : References) :
    get? ((other, uses) :: references) key =
      if key = other then some uses else get? references key := by
  by_cases hkey : key = other
  · simp [get?, hkey]
  · have hbeq : (key == other) = false := beq_false_of_ne hkey
    simp [get?, List.lookup_cons, hkey, hbeq]

theorem get?_extend (name key : String) (uses : List Reference) (references : References) :
    (references.extend name uses).get? key =
      if key = name then some ((references.get? name).getD [] ++ uses)
      else references.get? key := by
  induction references with
  | nil => exact get?_cons key name uses []
  | cons entry references ih =>
    obtain ⟨other, earlier⟩ := entry
    rw [extend]
    by_cases hother : other = name
    · subst hother
      rw [if_pos rfl, get?_cons, get?_cons, get?_cons]
      by_cases hkey : key = other <;> simp [hkey]
    · rw [if_neg hother, get?_cons, ih, get?_cons, get?_cons, if_neg (Ne.symm hother)]
      by_cases hkey : key = name
      · simp [hkey, Ne.symm hother]
      · simp [hkey]

theorem mem_of_get?_extend {name key : String} {new uses : List Reference}
    {references : References} (huses : (references.extend name new).get? key = some uses)
    {reference : Reference} (hreference : reference ∈ uses) :
    (∃ earlier, references.get? key = some earlier ∧ reference ∈ earlier) ∨
      key = name ∧ reference ∈ new := by
  rw [get?_extend] at huses
  by_cases hkey : key = name
  · rw [if_pos hkey, ← hkey] at huses
    cases huses
    obtain hearlier | hnew := List.mem_append.1 hreference
    · cases hlisted : references.get? key with
      | none => simp [hlisted] at hearlier
      | some earlier => exact .inl ⟨earlier, rfl, by simpa [hlisted] using hearlier⟩
    · exact .inr ⟨hkey, hnew⟩
  · rw [if_neg hkey] at huses
    exact .inl ⟨uses, huses, hreference⟩

end References

namespace Program

/-- The references listed under a name are uses of the symbols that were imported by it. -/
theorem exists_binding_of_mem_references {program : Program} {bindings : List Binding}
    {name : String} {uses : List Reference}
    (huses : (program.references bindings).get? name = some uses) {reference : Reference}
    (hreference : reference ∈ uses) :
    ∃ binding ∈ bindings, binding.imported = name ∧ reference ∈ program.uses binding.symbol := by
  -- The bindings are taken in one after the other, so the induction is from the last one back.
  induction bindings using List.reverseRecOn generalizing uses with
  | nil => cases huses
  | append_singleton bindings binding ih =>
    rw [references, List.foldl_append] at huses
    obtain ⟨earlier, hearlier, hmem⟩ | ⟨hname, hmem⟩ :=
      References.mem_of_get?_extend huses hreference
    · obtain ⟨other, hother, hfound⟩ := ih hearlier hmem
      exact ⟨other, List.mem_append_left _ hother, hfound⟩
    · exact ⟨binding, List.mem_append_right _ (List.mem_singleton.2 rfl), hname.symm, hmem⟩

end Program

/-- An expression statement at `slot`, in a list that can hold marker calls. -/
structure StatementAt (program : Program) (slot : Slot) where
  row : Row
  left : List Node
  span : Span
  expression : Node
  right : List Node
  container : row.container = some slot.container
  length : left.length = slot.index
  fill : row.fill (left ++ .exprStmt span expression :: right) = program

namespace StatementAt

variable {program : Program} {slot : Slot}

/-- The list that the statement is an item of. -/
def items (statement : StatementAt program slot) : List Node :=
  statement.left ++ .exprStmt statement.span statement.expression :: statement.right

/-- The place of the statement. -/
def place (statement : StatementAt program slot) : Context :=
  .item statement.row statement.left statement.right

/-- The visits of a walk through the statement. -/
def visits (statement : StatementAt program slot) : List Visit :=
  (Node.exprStmt statement.span statement.expression).walk
    (.item statement.row statement.left statement.right)

end StatementAt

theorem Frame.statement_or_anchor (frame : Frame) (around : Surroundings) :
    (∃ span, frame = .statement span) ∨ (frame.around around).anchor = around.anchor := by
  cases frame <;> simp [Surroundings.inside, Surroundings.callee]

/-- The slot noted down for the expression of a statement is that of the statement. -/
theorem Context.exists_statementAt_expression {outer : Context} {span : Span} {slot : Slot}
    (hanchor : (Context.frame outer (.statement span)).around.anchor = .at slot) (node : Node) :
    ∃ statement : StatementAt (outer.fill (.exprStmt span node)) slot,
      node.walk (.frame outer (.statement span)) ⊆ statement.visits ∧
        statement.place.before = outer.before := by
  cases outer with
  | frame outer last =>
    cases last <;>
      simp [Surroundings.statement, Surroundings.inside, Surroundings.callee] at hanchor
  | item row left right =>
    cases hrow : row.container with
    | none => simp [hrow, Surroundings.statement] at hanchor
    | some number =>
      simp only [Context.around, Frame.around, hrow, Surroundings.statement, Option.map_some,
        Option.elim_some, Anchor.at.injEq] at hanchor
      subst hanchor
      exact ⟨⟨row, left, span, node, right, hrow, rfl, rfl⟩,
        (Frame.statement span).walk_subset (.item row left right) node, rfl⟩

theorem Frame.beforeStatement_of_ne {frame : Frame} (hframe : ∀ span, frame ≠ .statement span)
    (outer : Context) : (Context.frame outer frame).beforeStatement = outer.beforeStatement := by
  cases frame with
  | statement span => exact absurd rfl (hframe span)
  | _ => simp [Context.beforeStatement]

mutual

/-- The slot noted down for the innermost statement around a place is that of a statement, and the
place is in it. -/
theorem Context.exists_innermost {slot : Slot} (node : Node) : ∀ context : Context,
    context.around.anchor = .at slot → ∃ statement : StatementAt (context.fill node) slot,
      node.walk context ⊆ statement.visits ∧ statement.place.before = context.beforeStatement
  | .frame outer frame, hanchor => by
    by_cases hframe : ∃ span, frame = .statement span
    · obtain ⟨span, rfl⟩ := hframe
      exact Context.exists_statementAt_expression hanchor node
    · have houter := (frame.statement_or_anchor outer.around).resolve_left hframe
      rw [Context.around, houter] at hanchor
      obtain ⟨statement, hsubset, hbefore⟩ := outer.exists_innermost (frame.fill node) hanchor
      have hsame := Frame.beforeStatement_of_ne (fun span heq => hframe ⟨span, heq⟩) outer
      exact ⟨statement, List.Subset.trans (frame.walk_subset outer node) hsubset,
        hbefore.trans hsame.symm⟩
  | .item row left right, hanchor => by
    obtain ⟨statement, hsubset, hbefore⟩ :=
      row.exists_innermost (left ++ node :: right) hanchor
    exact ⟨statement, List.Subset.trans (node.walk_subset_row row left right) hsubset, hbefore⟩

theorem Row.exists_innermost {slot : Slot} (nodes : List Node) : ∀ row : Row,
    row.anchor = .at slot → ∃ statement : StatementAt (row.fill nodes) slot,
      Node.walkRow row [] nodes ⊆ statement.visits ∧
        statement.place.before = row.beforeStatement
  | .body .., hanchor => by cases hanchor
  | .block outer span kind, hanchor => by
    obtain ⟨statement, hsubset, hbefore⟩ :=
      outer.exists_innermost (.block span kind nodes) hanchor
    exact ⟨statement, List.Subset.trans (Row.walk_subset_parent rfl) hsubset, hbefore⟩
  | .branch outer span test, hanchor => by
    obtain ⟨statement, hsubset, hbefore⟩ :=
      outer.exists_innermost (.switchCase span test nodes) hanchor
    exact ⟨statement, List.Subset.trans (Row.walk_subset_parent rfl) hsubset, hbefore⟩
  | .arguments outer span context callee typeArguments, hanchor => by
    obtain ⟨statement, hsubset, hbefore⟩ :=
      outer.exists_innermost (.call span context callee nodes typeArguments) hanchor
    exact ⟨statement, List.Subset.trans (Row.walk_subset_parent rfl) hsubset, hbefore⟩
  | .declarators outer span header, hanchor => by
    obtain ⟨statement, hsubset, hbefore⟩ :=
      outer.exists_innermost (.varDecl span header nodes) hanchor
    exact ⟨statement, List.Subset.trans (Row.walk_subset_parent rfl) hsubset, hbefore⟩
  | .children outer form, hanchor => by
    obtain ⟨statement, hsubset, hbefore⟩ := outer.exists_innermost (.other form nodes) hanchor
    exact ⟨statement, List.Subset.trans (Row.walk_subset_parent rfl) hsubset, hbefore⟩

end

theorem Context.exists_statementAt {slot : Slot} (node : Node) (context : Context)
    (hanchor : context.around.anchor = .at slot) :
    ∃ statement : StatementAt (context.fill node) slot,
      node.walk context ⊆ statement.visits := by
  obtain ⟨statement, hsubset, _⟩ := context.exists_innermost node hanchor
  exact ⟨statement, hsubset⟩

theorem Context.exists_statementAt_of_statementSlot? {slot : Slot} :
    ∀ {context : Context} {node : Node}, context.statementSlot? = some slot →
      ∃ statement : StatementAt (context.fill node) slot,
        statement.expression.stripParens = node.stripParens
  | .item row left right, _, hslot => by cases hslot
  | .frame outer last, node, hslot => by
    cases last with
    | statement span =>
      cases outer with
      | frame outer last => cases hslot
      | item row left right =>
        rw [Context.statementSlot?] at hslot
        obtain ⟨number, hrow, hslot⟩ := Option.map_eq_some_iff.1 hslot
        subst hslot
        exact ⟨⟨row, left, span, node, right, hrow, rfl, rfl⟩, rfl⟩
    | parenInner span =>
      rw [Context.statementSlot?] at hslot
      have houter : ∃ statement : StatementAt (outer.fill (.paren span node)) slot,
          statement.expression.stripParens = (Node.paren span node).stripParens :=
        Context.exists_statementAt_of_statementSlot? hslot
      exact houter
    | _ => simp [Context.statementSlot?] at hslot

/-- A call with a callee slot is, parentheses aside, all of the statement at that slot. -/
theorem Program.exists_call_of_calleeSlot? {program : Program} {symbol : Symbol}
    {reference : Reference} {slot : Slot} (huse : reference ∈ program.uses symbol)
    (hkind : reference.kind = .call) (hslot : program.calleeSlot? reference = some slot) :
    ∃ (statement : StatementAt program slot) (span : Span) (number : Nat) (callee : Ident)
      (arguments : List Node) (typeArguments : Option Node),
      statement.expression.stripParens =
        .call span number (.ident callee) arguments typeArguments ∧
      callee.symbol = symbol ∧ callee.span = reference.span := by
  obtain ⟨visit, occurrence, hvisit, hoccurrence, hsymbol, rfl⟩ := exists_visit_of_mem_uses huse
  rw [calleeSlot?, Visit.visitOf?_reference hvisit hoccurrence, Option.bind_some] at hslot
  have hfill := fill_of_mem_walk hvisit
  subst hfill
  obtain ⟨context, node⟩ := visit
  unfold Context.calleeSlot? at hslot
  split at hslot
  · next outer span number arguments typeArguments hcontext =>
    change context = _ at hcontext
    subst hcontext
    cases node with
    | ident callee =>
      cases hoccurrence
      obtain ⟨statement, hstatement⟩ := Context.exists_statementAt_of_statementSlot? hslot
      exact ⟨statement, span, number, callee, arguments, typeArguments, hstatement, hsymbol, rfl⟩
    | binder callee typing =>
      cases hoccurrence
      simp [Visit.reference, Occurrence.kind] at hkind
    | _ => cases hoccurrence
  · cases hslot

/-- What can be wrong with a marker call and with the declaration that it decorates. -/
def Cause.ofCall : List Cause :=
  [.noDeclaration, .severalDeclarators, .noDeclarator, .notFunctionShaped, .notPlainCall,
    .tooFewArguments, .decoratorNotIdentifier]

theorem Cause.message_of_mem_ofCall : ∀ cause ∈ ofCall,
    cause.message ≠ "Expression not found" := by
  decide

theorem Target.cause_of_find {span : Span} {following : List Node} {error : Error}
    (hfind : find span following = .error error) : error.cause ∈ Cause.ofCall := by
  unfold find at hfind
  repeat' split at hfind
  all_goals cases hfind
  all_goals simp [Cause.ofCall]

theorem MarkerCall.cause_of_ofStatement {span : Span} {expression : Node} {error : Error}
    (hcall : ofStatement span expression = .error error) : error.cause ∈ Cause.ofCall := by
  unfold ofStatement at hcall
  repeat' split at hcall
  all_goals cases hcall
  all_goals simp [Cause.ofCall]

theorem cause_of_decorateAt_zero {span : Span} {expression : Node} {following : List Node}
    {error : Error}
    (herror : decorateAt (.exprStmt span expression :: following) 0 = .error error) :
    error.cause ∈ Cause.ofCall := by
  rw [decorateAt_zero] at herror
  cases hfind : Target.find span following with
  | error other =>
    simp only [hfind, bind, Except.bind, Except.error.injEq] at herror
    exact herror ▸ Target.cause_of_find hfind
  | ok target =>
    cases hcall : MarkerCall.ofStatement span expression with
    | error other =>
      simp only [hfind, hcall, bind, Except.bind, Except.error.injEq] at herror
      exact herror ▸ MarkerCall.cause_of_ofStatement hcall
    | ok call => simp [hfind, hcall, bind, Except.bind, pure, Except.pure] at herror

namespace StatementAt

/-- The list with the number of the slot is the one that holds the statement. -/
theorem lists_container (statement : StatementAt program slot) :
    program.lists[slot.container]? = some statement.items := by
  have hnumber := Row.number?_of_container statement.container
  have hlists := statement.row.lists_number hnumber statement.items
  rwa [items, statement.fill] at hlists

theorem items_index (statement : StatementAt program slot) :
    statement.items[slot.index]? = some (.exprStmt statement.span statement.expression) := by
  rw [items, ← statement.length, List.getElem?_append_right (Nat.le_refl _), Nat.sub_self]
  rfl

/-- Decorating at the slot is decorating at the statement, in the rest of its list. -/
theorem decorate_eq (statement : StatementAt program slot) :
    program.decorate slot =
      (decorateAt (.exprStmt statement.span statement.expression :: statement.right) 0).map
        fun (new, decorated) => (statement.row.fill (statement.left ++ new), decorated) := by
  have hnumber := Row.number?_of_container statement.container
  have hrow := statement.row.decorate_fill hnumber statement.items slot.index
  have hlist := decorateAt_length_append statement.left
    (.exprStmt statement.span statement.expression :: statement.right)
  rw [statement.length] at hlist
  rw [items, statement.fill, hlist] at hrow
  refine hrow.trans ?_
  cases decorateAt (.exprStmt statement.span statement.expression :: statement.right) 0 <;> rfl

/-- A marker call at a statement may fail, but not because there is no statement. -/
theorem message_of_decorate (statement : StatementAt program slot) {error : Error}
    (herror : program.decorate slot = .error error) :
    error.message ≠ "Expression not found" := by
  rw [statement.decorate_eq] at herror
  cases hcall : decorateAt
      (.exprStmt statement.span statement.expression :: statement.right) 0 with
  | ok result =>
    rw [hcall] at herror
    cases herror
  | error other =>
    rw [hcall] at herror
    cases herror
    exact Cause.message_of_mem_ofCall _ (cause_of_decorateAt_zero hcall)

/-- A marker call at a statement that is carried out replaces the rest of the list. -/
theorem exists_new_of_decorate (statement : StatementAt program slot) {edited : Program}
    {decorated : Decorated} (hdecorate : program.decorate slot = .ok (edited, decorated)) :
    ∃ new, decorateAt (.exprStmt statement.span statement.expression :: statement.right) 0 =
        .ok (new, decorated) ∧
      statement.row.fill (statement.left ++ new) = edited := by
  rw [statement.decorate_eq] at hdecorate
  cases hcall : decorateAt
      (.exprStmt statement.span statement.expression :: statement.right) 0 with
  | error error =>
    rw [hcall] at hdecorate
    cases hdecorate
  | ok result =>
    rw [hcall] at hdecorate
    cases hdecorate
    exact ⟨_, rfl, rfl⟩

end StatementAt

namespace Anchor

theorem message_of_resolve {anchor : Anchor} {span : Span} {error : Error}
    (herror : anchor.resolve span = .error error) : error.message ≠ "Expression not found" := by
  have hmessages : ∀ cause ∈ [Cause.noStatement, .outsideBlock],
      cause.message ≠ "Expression not found" := by decide
  cases anchor with
  | absent =>
    cases herror
    exact hmessages _ (by simp)
  | loose =>
    cases herror
    exact hmessages _ (by simp)
  | «at» slot => cases herror

theorem of_resolve {anchor : Anchor} {span : Span} {slot : Slot}
    (hslot : anchor.resolve span = .ok slot) : anchor = .at slot := by
  cases anchor with
  | absent => cases hslot
  | loose => cases hslot
  | «at» other =>
    cases hslot
    rfl

end Anchor

/-- The slot around a reference is that of the innermost statement around its identifier. -/
theorem Visit.exists_statement {program : Program} {visit : Visit} {occurrence : Occurrence}
    {slot : Slot} (hvisit : visit ∈ program.walk)
    (hoccurrence : visit.occurrence? = some occurrence)
    (hslot : program.enclosingStatement (visit.reference occurrence) = .ok slot) :
    ∃ statement : StatementAt program slot, visit ∈ statement.visits ∧
      statement.place.before = visit.context.beforeStatement := by
  rw [enclosingStatement_reference hvisit hoccurrence] at hslot
  have hanchor := Anchor.of_resolve hslot
  rw [anchor_of_occurrence? hoccurrence] at hanchor
  obtain ⟨statement, hsubset, hbefore⟩ := visit.context.exists_innermost visit.node hanchor
  have hfill := Program.fill_of_mem_walk hvisit
  subst hfill
  exact ⟨statement, hsubset (Node.mem_walk_self visit.context visit.node), hbefore⟩

/-- A reference leads to the identifier that it was made for. The slot that is found for it is that
of an expression statement around the identifier, in a list that can hold marker calls. -/
theorem references_lead_to_statements {program : Program} {bindings : List Binding}
    {name : String} {uses : List Reference}
    (huses : (program.references bindings).get? name = some uses) {reference : Reference}
    (hreference : reference ∈ uses) :
    ∃ visit occurrence, program.visitOf? reference = some visit ∧
      visit.occurrence? = some occurrence ∧ visit.reference occurrence = reference ∧
      program.enclosingStatement reference = occurrence.anchor.resolve occurrence.ident.span ∧
      (∀ error, program.enclosingStatement reference = .error error →
        error.message ≠ "Expression not found") ∧
      ∀ slot, program.enclosingStatement reference = .ok slot →
        ∃ statement : StatementAt program slot,
          program.lists[slot.container]? = some statement.items ∧
          statement.items[slot.index]? =
            some (.exprStmt statement.span statement.expression) ∧
          visit ∈ statement.visits ∧
          ∀ error, program.decorate slot = .error error →
            error.message ≠ "Expression not found" := by
  obtain ⟨binding, _, _, huse⟩ := Program.exists_binding_of_mem_references huses hreference
  obtain ⟨visit, occurrence, hvisit, hoccurrence, _, rfl⟩ :=
    Program.exists_visit_of_mem_uses huse
  have hresolve := Visit.enclosingStatement_reference hvisit hoccurrence
  refine ⟨visit, occurrence, Visit.visitOf?_reference hvisit hoccurrence, hoccurrence, rfl,
    hresolve, ?_, ?_⟩
  · intro error herror
    exact Anchor.message_of_resolve (hresolve.symm.trans herror)
  · intro slot hslot
    have hanchor := Anchor.of_resolve (hresolve.symm.trans hslot)
    rw [Visit.anchor_of_occurrence? hoccurrence] at hanchor
    obtain ⟨statement, hsubset⟩ := visit.context.exists_statementAt visit.node hanchor
    have hinside := hsubset (Node.mem_walk_self visit.context visit.node)
    have hfill := Program.fill_of_mem_walk hvisit
    subst hfill
    exact ⟨statement, statement.lists_container, statement.items_index, hinside,
      fun _ => statement.message_of_decorate⟩

theorem references_lead_to_statements_sample :
    Sample.program.enclosingStatement ⟨Sample.marker, 3, ⟨121, 129⟩, .call⟩ = .ok ⟨1, 0⟩ ∧
      ∃ statement : StatementAt Sample.program ⟨1, 0⟩,
        Sample.program.lists[1]? = some statement.items := by
  have huses : (Sample.program.references [⟨markerName, Sample.marker⟩]).get? markerName =
    some (Sample.program.uses Sample.marker) := rfl
  have hreference : ⟨Sample.marker, 3, ⟨121, 129⟩, .call⟩ ∈ Sample.program.uses Sample.marker := by
    decide
  obtain ⟨_, _, _, _, _, _, _, hstatement⟩ := references_lead_to_statements huses hreference
  obtain ⟨statement, hlists, _⟩ := hstatement ⟨1, 0⟩ rfl
  exact ⟨rfl, statement, hlists⟩

end MarkerExpansion
