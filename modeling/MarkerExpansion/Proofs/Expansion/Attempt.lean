import MarkerExpansion.Proofs.Decoration.Place
import MarkerExpansion.Proofs.Expansion.Rest
import MarkerExpansion.Proofs.Expansion.Verdict
import MarkerExpansion.Proofs.Reference.Visit

/-!
The callee of a marker call.

The callee is the first identifier in a marker call, so that an expansion that works from the last
call to the first comes to it when all the rest of the statement, and of its list, is expanded.
-/

namespace MarkerExpansion

/-- A node that is no part of a marker call from its statement down to its callee. -/
structure Node.Inert (symbol : Symbol) (node : Node) : Prop where
  ident : ∀ identifier, node = .ident identifier → identifier.symbol ≠ symbol
  calls : node.calls symbol = false
  statement : node.isMarkerCall symbol = false

namespace Node.Inert

variable {symbol : Symbol} {node : Node}

theorem paren (hnode : node.Inert symbol) (span : Span) : Inert symbol (.paren span node) where
  ident _ h := by cases h
  calls := hnode.calls
  statement := rfl

theorem exprStmt (hnode : node.Inert symbol) (span : Span) :
    Inert symbol (.exprStmt span node) where
  ident _ h := by cases h
  calls := rfl
  statement := hnode.calls

theorem call (hnode : ∀ identifier, node = .ident identifier → identifier.symbol ≠ symbol)
    (span : Span) (context : Nat) (arguments : List Node) (typeArguments : Option Node) :
    Inert symbol (.call span context node arguments typeArguments) where
  ident _ h := by cases h
  calls := by
    cases node with
    | ident identifier => simpa [Node.calls, stripParens] using hnode identifier rfl
    | _ => simp [Node.calls, stripParens]
  statement := rfl

end Node.Inert

namespace Context

variable {symbol : Symbol}

/-- What carrying out the marker call does to the program of which the node at a place is the first
part, if that is so. -/
def attempt (symbol : Symbol) : Context → Node → Option (Except Error (Program × Decorated))
  | .item row left right, node =>
    if row.container.isSome && node.isMarkerCall symbol then
      some ((decorateAt (node :: right) 0).map fun (new, decorated) =>
        (row.fill (left ++ new), decorated))
    else none
  | .frame outer (.statement span), node => outer.attempt symbol (.exprStmt span node)
  | .frame outer (.parenInner span), node => outer.attempt symbol (.paren span node)
  | .frame outer (.callCallee span context arguments typeArguments), node =>
    outer.attempt symbol (.call span context node arguments typeArguments)
  | .frame .., _ => none

/-- The program with a node at a place, after the marker call that begins there, if any. -/
def finish (symbol : Symbol) (context : Context) (node : Node) : Option Program :=
  match context.attempt symbol node with
  | none => some (context.fill node)
  | some outcome => outcome.toOption.map Prod.fst

theorem attempt_of_inert {node : Node} (hnode : node.Inert symbol) :
    ∀ context : Context, context.attempt symbol node = none
  | .item row left right => by simp [attempt, hnode.statement]
  | .frame outer last => by
    cases last with
    | statement span => exact attempt_of_inert (hnode.exprStmt span) outer
    | parenInner span => exact attempt_of_inert (hnode.paren span) outer
    | callCallee span context arguments typeArguments =>
      exact attempt_of_inert (.call hnode.ident span context arguments typeArguments) outer
    | _ => simp [attempt]

theorem finish_of_inert {node : Node} (hnode : node.Inert symbol) (context : Context) :
    context.finish symbol node = some (context.fill node) := by
  rw [finish, attempt_of_inert hnode]

theorem bind_finish {context : Context} (hcontext : ∀ node, context.attempt symbol node = none)
    (part : Option Node) : part.bind (context.finish symbol) = part.map context.fill := by
  cases part with
  | none => rfl
  | some node => rw [Option.bind_some, finish, hcontext, Option.map_some]

theorem finish_item (row : Row) (left right : List Node) (node : Node) :
    (Context.item row left right).finish symbol node =
      (row.carryFirst symbol node right).map fun new => row.fill (left ++ new) := by
  rw [finish, attempt, Row.carryFirst]
  by_cases hmarker : row.container.isSome && node.isMarkerCall symbol
  · rw [if_pos hmarker, if_pos hmarker]
    cases decorateAt (node :: right) 0 <;> rfl
  · rw [if_neg hmarker, if_neg hmarker]
    rfl

/-- An identifier that is not called begins no marker call. -/
theorem attempt_of_not_isCallee {context : Context} (hcallee : context.around.isCallee = false)
    (identifier : Ident) : context.attempt symbol (.ident identifier) = none := by
  cases context with
  | item row left right => simp [attempt, Node.isMarkerCall]
  | frame outer last =>
    cases last with
    | statement span => exact attempt_of_inert ⟨by simp, rfl, rfl⟩ outer
    | parenInner span => exact attempt_of_inert ⟨by simp, rfl, rfl⟩ outer
    | callCallee span context arguments typeArguments =>
      simp [Surroundings.callee] at hcallee
    | _ => simp [attempt]

/-- A statement that is not an item of a list is no marker call. -/
theorem attempt_frame_exprStmt (outer : Context) (last : Frame) (span : Span) (node : Node) :
    (Context.frame outer last).attempt symbol (.exprStmt span node) = none := by
  cases last with
  | statement => exact attempt_of_inert ⟨by simp, rfl, rfl⟩ outer
  | parenInner => exact attempt_of_inert ⟨by simp, rfl, rfl⟩ outer
  | callCallee span context arguments typeArguments =>
    exact attempt_of_inert (.call (by simp) span context arguments typeArguments) outer
  | _ => simp [attempt]

theorem decorate_of_attempt_statement {row : Row} {left right : List Node} {span : Span}
    {node : Node} {outcome : Except Error (Program × Decorated)}
    (hattempt : (Context.item row left right).attempt symbol (.exprStmt span node) = some outcome) :
    ∃ slot, (Context.frame (.item row left right) (.statement span)).around.anchor = .at slot ∧
      (row.fill (left ++ .exprStmt span node :: right)).decorate slot = outcome := by
  rw [attempt] at hattempt
  split at hattempt
  · next hmarker =>
    cases hattempt
    cases hrow : row.container with
    | none => simp [hrow] at hmarker
    | some number =>
      refine ⟨⟨number, left.length⟩, by simp [hrow, Surroundings.statement], ?_⟩
      rw [row.decorate_fill (row.number?_of_container hrow), decorateAt_length_append]
      cases decorateAt (.exprStmt span node :: right) 0 <;> rfl
  · cases hattempt

/-- An attempt is what decorating at the statement around the place does. -/
theorem decorate_of_attempt {outcome : Except Error (Program × Decorated)} :
    ∀ {context : Context} {node : Node}, (∀ span inner, node ≠ .exprStmt span inner) →
      context.attempt symbol node = some outcome →
        ∃ slot, context.around.anchor = .at slot ∧ (context.fill node).decorate slot = outcome
  | .item row left right, node, hnode, h => by
    cases node with
    | exprStmt span inner => exact absurd rfl (hnode span inner)
    | _ => simp [attempt, Node.isMarkerCall] at h
  | .frame outer last, node, _, h => by
    cases last with
    | statement span =>
      cases outer with
      | frame outer last =>
        rw [attempt, attempt_frame_exprStmt] at h
        cases h
      | item row left right => exact decorate_of_attempt_statement h
    | parenInner span =>
      have hnode : ∀ span' inner, Node.paren span node ≠ .exprStmt span' inner := by simp
      obtain ⟨slot, hanchor, hdecorate⟩ := decorate_of_attempt hnode h
      exact ⟨slot, hanchor, hdecorate⟩
    | callCallee span number arguments typeArguments =>
      have hnode : ∀ span' inner,
          Node.call span number node arguments typeArguments ≠ .exprStmt span' inner := by simp
      obtain ⟨slot, hanchor, hdecorate⟩ := decorate_of_attempt hnode h
      exact ⟨slot, hanchor, hdecorate⟩
    | _ => simp [attempt] at h

/-- Expanding a node and all that comes after it does not change the outcome of the marker call that
begins there. -/
theorem attempt_expandRest : ∀ {context rest : Context} {node expanded : Node},
    context.expandRest symbol = some rest → node.expandInside symbol = some expanded →
      (rest.attempt symbol expanded).map (Except.map Prod.snd) =
        (context.attempt symbol node).map (Except.map Prod.snd)
  | .item row left right, _, node, expanded, hrest, hnode => by
    rw [expandRest] at hrest
    obtain ⟨newRow, hrow, hrest⟩ := Option.bind_eq_some_iff.1 hrest
    obtain ⟨inside, hinside, hrest⟩ := Option.bind_eq_some_iff.1 hrest
    obtain ⟨carried, hcarried, hrest⟩ := Option.bind_eq_some_iff.1 hrest
    cases hrest
    have hcontainer := (Row.expandRest_beginsLike hrow).container
    have hmarker : expanded.isMarkerCall symbol = node.isMarkerCall symbol := by
      rw [← Node.isMarkerCall_outline, Node.outline_expandInside hnode, Node.isMarkerCall_outline]
    rw [attempt, attempt, hcontainer, hmarker]
    split
    · next h =>
      obtain ⟨hrow, hcall⟩ := Bool.and_eq_true_iff.1 h
      rw [Row.carry, if_pos hrow] at hcarried
      have hsame := decorateAt_zero_expanded hcall hnode hinside hcarried
      cases hold : decorateAt (node :: right) 0 <;>
        cases hnew : decorateAt (expanded :: carried) 0 <;>
          simp_all [Except.map]
    · rfl
  | .frame outer last, _, node, expanded, hrest, hnode => by
    rw [expandRest] at hrest
    obtain ⟨newOuter, houter, hrest⟩ := Option.bind_eq_some_iff.1 hrest
    obtain ⟨newLast, hlast, hrest⟩ := Option.bind_eq_some_iff.1 hrest
    cases hrest
    cases last with
    | statement span =>
      cases hlast
      have hstatement : (Node.exprStmt span node).expandInside symbol =
          some (.exprStmt span expanded) := by simp [Node.expandInside, hnode]
      rw [attempt, attempt]
      exact attempt_expandRest houter hstatement
    | parenInner span =>
      cases hlast
      have hparen : (Node.paren span node).expandInside symbol = some (.paren span expanded) := by
        simp [Node.expandInside, hnode]
      rw [attempt, attempt]
      exact attempt_expandRest houter hparen
    | callCallee span number arguments typeArguments =>
      cases typeArguments with
      | none =>
        obtain ⟨newArguments, harguments, hlast⟩ := Option.bind_eq_some_iff.1 hlast
        cases hlast
        have hcall : (Node.call span number node arguments none).expandInside symbol =
            some (.call span number expanded newArguments none) := by
          simp [Node.expandInside, hnode, harguments]
        rw [attempt, attempt]
        exact attempt_expandRest houter hcall
      | some typeArguments =>
        obtain ⟨newArguments, harguments, hlast⟩ := Option.bind_eq_some_iff.1 hlast
        obtain ⟨newTypeArguments, htypeArguments, hlast⟩ := Option.bind_eq_some_iff.1 hlast
        cases hlast
        have hcall :
            (Node.call span number node arguments (some typeArguments)).expandInside symbol =
              some (.call span number expanded newArguments (some newTypeArguments)) := by
          simp [Node.expandInside, hnode, harguments, htypeArguments]
        rw [attempt, attempt]
        exact attempt_expandRest houter hcall
    | memberObject span property =>
      obtain ⟨_, _, hlast⟩ := Option.bind_eq_some_iff.1 hlast
      cases hlast
      simp [attempt]
    | declaratorPattern span definite init =>
      cases init with
      | none =>
        cases hlast
        simp [attempt]
      | some init =>
        obtain ⟨_, _, hlast⟩ := Option.bind_eq_some_iff.1 hlast
        cases hlast
        simp [attempt]
    | switchTest span items =>
      obtain ⟨_, _, hlast⟩ := Option.bind_eq_some_iff.1 hlast
      cases hlast
      simp [attempt]
    | _ =>
      cases hlast
      simp [attempt]

theorem isSome_attempt_of_statementSlot? {slot : Slot} : ∀ {context : Context} {node : Node},
    context.statementSlot? = some slot → node.calls symbol →
      (context.attempt symbol node).isSome
  | .item row left right, _, hslot, _ => by cases hslot
  | .frame outer last, node, hslot, hcalls => by
    cases last with
    | statement span =>
      cases outer with
      | frame outer last => cases hslot
      | item row left right =>
        rw [statementSlot?] at hslot
        obtain ⟨number, hrow, _⟩ := Option.map_eq_some_iff.1 hslot
        simp [attempt, hrow, Node.isMarkerCall, hcalls]
    | parenInner span =>
      rw [statementSlot?] at hslot
      have hparen : (Node.paren span node).calls symbol := hcalls
      rw [attempt]
      exact isSome_attempt_of_statementSlot? hslot hparen
    | _ => simp [statementSlot?] at hslot

/-- The callee of a marker call that stands as a statement begins it. -/
theorem isSome_attempt_of_calleeSlot? {context : Context} {slot : Slot} {identifier : Ident}
    (hslot : context.calleeSlot? = some slot) (hsymbol : identifier.symbol = symbol) :
    (context.attempt symbol (.ident identifier)).isSome := by
  unfold calleeSlot? at hslot
  split at hslot
  · next outer span number arguments typeArguments =>
    have hcalls : (Node.call span number (.ident identifier) arguments typeArguments).calls
        symbol := by simp [Node.calls, Node.stripParens, hsymbol]
    rw [attempt]
    exact isSome_attempt_of_statementSlot? hslot hcalls
  · cases hslot

end Context

end MarkerExpansion
