import MarkerExpansion.Proofs.Expansion.Attempt
import MarkerExpansion.Proofs.Expansion.Run

/-!
Marker calls at their places.

A run comes to a marker call when all that comes after its callee is expanded. The callee is still
where it was, and carrying out the call leaves the program that the expansion of its list leaves.
-/

namespace MarkerExpansion

/-- The calls of `symbol` among some occurrences, where its uses are numbered from `start` on. -/
def callsFrom (symbol : Symbol) (start : Nat) (occurrences : List Occurrence) : List Reference :=
  (usesFrom symbol start occurrences).filter fun use => use.kind = .call

@[simp] theorem callsFrom_nil (symbol : Symbol) (start : Nat) : callsFrom symbol start [] = [] :=
  rfl

@[simp] theorem callsFrom_append (symbol : Symbol) (start : Nat) (left right : List Occurrence) :
    callsFrom symbol start (left ++ right) = callsFrom symbol start left
      ++ callsFrom symbol (start + left.countP (Occurrence.names symbol)) right := by
  rw [callsFrom, usesFrom_append, List.filter_append]
  rfl

@[simp] theorem callsFrom_binder (symbol : Symbol) (start : Nat) (identifier : Ident)
    (anchor : Anchor) : callsFrom symbol start [⟨identifier, false, anchor⟩] = [] := by
  by_cases hsymbol : identifier.symbol = symbol <;>
    simp [callsFrom, usesFrom, Occurrence.names, Occurrence.kind, hsymbol]

/-- The calls of `symbol` in a node at a place. -/
def Context.calls (symbol : Symbol) (context : Context) (node : Node) : List Reference :=
  callsFrom symbol (context.before.countP (Occurrence.names symbol))
    (node.occurrences context.first context.around)

/-- The calls of `symbol` in the nodes of a row that come after those in `left`. -/
def Row.calls (symbol : Symbol) (row : Row) (left nodes : List Node) : List Reference :=
  callsFrom symbol
    ((row.before ++ Node.occurrencesOf row.container 0 row.first row.anchor left).countP
      (Occurrence.names symbol))
    (Node.occurrencesOf row.container left.length (row.first + Node.listCountOf left) row.anchor
      nodes)

theorem Row.calls_cons (symbol : Symbol) (row : Row) (left : List Node) (node : Node)
    (right : List Node) :
    row.calls symbol left (node :: right) =
      (Context.item row left right).calls symbol node
        ++ row.calls symbol (left ++ [node]) right := by
  simp [Row.calls, Context.calls, Node.occurrencesOf, Node.occurrencesOf_append, Nat.add_assoc]

/-- Every call of the marker that stands in a statement is the call that the statement is. -/
def Program.CallsAreStatements (program : Program) (symbol : Symbol) : Prop :=
  ∀ use ∈ program.uses symbol, use.kind = .call → ∀ slot,
    program.enclosingStatement use = .ok slot → program.calleeSlot? use = some slot

namespace Context

/-- The reference to an identifier that is called at a place. -/
def callReference (context : Context) (identifier : Ident) : Reference :=
  Visit.reference ⟨context, .ident identifier⟩ ⟨identifier, true, context.around.anchor⟩

theorem callReference_congr {context rest : Context} (hlike : rest.BeginsLike context)
    (identifier : Ident) : rest.callReference identifier = context.callReference identifier := by
  simp [callReference, Visit.reference, hlike.before, Occurrence.kind]

theorem occurrence?_callee {context : Context} (hcallee : context.around.isCallee = true)
    (identifier : Ident) : Visit.occurrence? ⟨context, .ident identifier⟩ =
      some ⟨identifier, true, context.around.anchor⟩ := by
  simp [hcallee]

theorem enclosingStatement_callReference {context : Context}
    (hcallee : context.around.isCallee = true) (identifier : Ident) :
    (context.fill (.ident identifier)).enclosingStatement (context.callReference identifier) =
      context.around.anchor.resolve identifier.span :=
  Visit.enclosingStatement_reference (Visit.mem_walk ⟨context, .ident identifier⟩)
    (occurrence?_callee hcallee identifier)

theorem decorateReference_of_attempt {context : Context}
    (hcallee : context.around.isCallee = true) {symbol : Symbol} {identifier : Ident}
    {outcome : Except Error (Program × Decorated)}
    (hattempt : context.attempt symbol (.ident identifier) = some outcome) :
    (context.fill (.ident identifier)).decorateReference (context.callReference identifier) =
      outcome := by
  obtain ⟨slot, hanchor, hdecorate⟩ := decorate_of_attempt (by simp) hattempt
  rw [Program.decorateReference, enclosingStatement_callReference hcallee, hanchor]
  exact hdecorate

/-- A call that stands in a statement without being it has no place in a program in which all calls
are statements. -/
theorem enclosingStatement_of_no_attempt {context : Context}
    (hcallee : context.around.isCallee = true) {identifier : Ident}
    (hname : identifier.symbol.name = markerName)
    (hcalls : (context.fill (.ident identifier)).CallsAreStatements identifier.symbol)
    (hattempt : context.attempt identifier.symbol (.ident identifier) = none) :
    ∃ error, context.around.anchor.resolve identifier.span = .error error := by
  have hmem := Visit.mem_walk ⟨context, .ident identifier⟩
  have hoccurrence := occurrence?_callee hcallee identifier
  cases hresolve : context.around.anchor.resolve identifier.span with
  | error error => exact ⟨error, rfl⟩
  | ok slot =>
    have hkind : (context.callReference identifier).kind = .call := by
      simp [callReference, Visit.reference, Occurrence.kind, hname]
    have hslot := hcalls _ (Visit.reference_mem_uses hmem hoccurrence) hkind slot
      ((enclosingStatement_callReference hcallee identifier).trans hresolve)
    rw [Program.calleeSlot?, Visit.visitOf?_reference hmem hoccurrence, Option.bind_some] at hslot
    have hsome := isSome_attempt_of_calleeSlot? hslot (Eq.refl identifier.symbol)
    rw [hattempt] at hsome
    cases hsome

theorem calls_ident_of_callee {context : Context} (hcallee : context.around.isCallee = true)
    {identifier : Ident} (hname : identifier.symbol.name = markerName) :
    context.calls identifier.symbol (.ident identifier) = [context.callReference identifier] := by
  simp [calls, callsFrom, usesFrom, Node.occurrences, Occurrence.names, Occurrence.kind, hcallee,
    hname, callReference, Visit.reference]

theorem calls_ident_of_not_callee {context : Context} {symbol : Symbol} {identifier : Ident}
    (hcall : ¬(context.around.isCallee = true ∧ identifier.symbol = symbol)) :
    context.calls symbol (.ident identifier) = [] := by
  by_cases hsymbol : identifier.symbol = symbol
  · have hcallee : context.around.isCallee = false := by simpa [hsymbol] using hcall
    simp [calls, callsFrom, usesFrom, Node.occurrences, Occurrence.names, Occurrence.kind, hsymbol,
      hcallee]
  · simp [calls, callsFrom, usesFrom, Node.occurrences, Occurrence.names, hsymbol]

theorem attempt_ident_of_not_callee {context : Context} {symbol : Symbol} {identifier : Ident}
    (hcall : ¬(context.around.isCallee = true ∧ identifier.symbol = symbol)) :
    context.attempt symbol (.ident identifier) = none := by
  by_cases hsymbol : identifier.symbol = symbol
  · have hcallee : context.around.isCallee = false := by simpa [hsymbol] using hcall
    exact attempt_of_not_isCallee hcallee identifier
  · refine attempt_of_inert ⟨?_, rfl, rfl⟩ context
    intro other hother
    cases hother
    exact hsymbol

end Context

section

variable {program : Program} {symbol : Symbol}

/-- A call of the marker is carried out when the run comes to its callee. -/
theorem runs_callee {identifier : Ident} (hname : identifier.symbol.name = markerName)
    (hcalls : program.CallsAreStatements identifier.symbol) {context rest : Context}
    (hrest : context.expandRest identifier.symbol = some rest)
    (hcallee : context.around.isCallee = true)
    (hfill : context.fill (.ident identifier) = program) :
    Runs program (rest.fill (.ident identifier)) [context.callReference identifier]
      (rest.finish identifier.symbol (.ident identifier)) := by
  subst hfill
  have hlike := Context.expandRest_beginsLike hrest
  have hrestCallee : rest.around.isCallee = true := by rwa [hlike.around]
  have hinside : (Node.ident identifier).expandInside identifier.symbol =
    some (.ident identifier) := rfl
  have hattempts := Context.attempt_expandRest hrest hinside
  cases hwould : context.attempt identifier.symbol (.ident identifier) with
  | none =>
    -- The call is misplaced, so that the run ends here, as it would on the untouched program.
    obtain ⟨error, herror⟩ :=
      Context.enclosingStatement_of_no_attempt hcallee hname hcalls hwould
    have hprogram := Context.enclosingStatement_callReference hcallee identifier
    have hcurrent := Context.enclosingStatement_callReference hrestCallee identifier
    rw [Context.callReference_congr hlike, hlike.around, herror] at hcurrent
    rw [herror] at hprogram
    exact Runs.misplaced hcurrent hprogram _
  | some would =>
    cases hmade : rest.attempt identifier.symbol (.ident identifier) with
    | none => simp [hwould, hmade] at hattempts
    | some made =>
      have hsame : made.map Prod.snd = would.map Prod.snd := by
        simpa [hwould, hmade] using hattempts
      have hcurrent := Context.decorateReference_of_attempt hrestCallee hmade
      rw [Context.callReference_congr hlike] at hcurrent
      rw [Context.finish, hmade]
      exact Runs.step hcurrent (Context.decorateReference_of_attempt hcallee hwould) hsame

theorem runs_ident (hname : symbol.name = markerName)
    (hcalls : program.CallsAreStatements symbol) {context rest : Context}
    (hrest : context.expandRest symbol = some rest) {identifier : Ident}
    (hfill : context.fill (.ident identifier) = program) :
    Runs program (rest.fill (.ident identifier))
      (context.calls symbol (.ident identifier)).reverse
      (rest.finish symbol (.ident identifier)) := by
  by_cases hcall : context.around.isCallee = true ∧ identifier.symbol = symbol
  · obtain ⟨hcallee, rfl⟩ := hcall
    rw [Context.calls_ident_of_callee hcallee hname, List.reverse_singleton]
    exact runs_callee hname hcalls hrest hcallee hfill
  · have hlike := Context.expandRest_beginsLike hrest
    have hother : rest.attempt symbol (.ident identifier) = none :=
      Context.attempt_ident_of_not_callee (by rwa [hlike.around])
    rw [Context.calls_ident_of_not_callee hcall, Context.finish, hother]
    exact Runs.nil program _

/-- With one binding of the marker, the marker calls are the calls among its uses, last one
first. -/
theorem Program.markerCalls_marker (program : Program) (symbol : Symbol) :
    (program.references [⟨markerName, symbol⟩]).markerCalls =
      .ok (callsFrom symbol 0 program.occurrences).reverse := by
  simp [references, References.extend, References.markerCalls, References.get?, callsFrom,
    uses_eq_usesFrom]

theorem Program.expand_references (program : Program) (symbol : Symbol) :
    program.expand (program.references [⟨markerName, symbol⟩]) =
      program.decorateAll (callsFrom symbol 0 program.occurrences).reverse := by
  rw [expand, markerCalls_marker]

end

end MarkerExpansion
