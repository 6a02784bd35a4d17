import MarkerExpansion.Proofs.Decoration.Inversion
import MarkerExpansion.Proofs.Expansion.Pending

/-!
The statements that an expansion takes away.

A marker call is looked up as an identifier, and then the statement around it is read anew, as any
call of a plain name. Both mean the same call only where the marker calls are statements of their
own.
-/

namespace MarkerExpansion

theorem StatementAt.expression_eq {program : Program} {slot : Slot}
    (statement other : StatementAt program slot) : other.expression = statement.expression := by
  have hitems := other.lists_container.symm.trans statement.lists_container
  have hitem := other.items_index
  rw [Option.some.inj hitems, statement.items_index] at hitem
  exact (Node.exprStmt.inj (Option.some.inj hitem)).2.symm

/-- The statement at the slot of a call that is a statement is that call. -/
theorem StatementAt.exists_call {program : Program} {slot : Slot}
    (statement : StatementAt program slot) {symbol : Symbol} {reference : Reference}
    (huse : reference ∈ program.uses symbol) (hkind : reference.kind = .call)
    (hcallee : program.calleeSlot? reference = some slot) :
    ∃ span number callee arguments typeArguments,
      statement.expression.stripParens =
        .call span number (.ident callee) arguments typeArguments ∧
      callee.symbol = symbol ∧ callee.span = reference.span := by
  obtain ⟨other, span, number, callee, arguments, typeArguments, hexpression, hsymbol, hspan⟩ :=
    Program.exists_call_of_calleeSlot? huse hkind hcallee
  rw [statement.expression_eq] at hexpression
  exact ⟨span, number, callee, arguments, typeArguments, hexpression, hsymbol, hspan⟩

namespace Program

/-- A reference that is found stands for an identifier with its symbol and span. -/
theorem mem_uses_of_enclosingStatement {program : Program} {reference : Reference} {slot : Slot}
    (hslot : program.enclosingStatement reference = .ok slot) :
    ∃ kind, { reference with kind } ∈ program.uses reference.symbol := by
  cases hsite : (program.occurrencesOf reference.symbol)[reference.ordinal]? with
  | none => simp [enclosingStatement, hsite] at hslot
  | some occurrence =>
    have hspan : occurrence.ident.span = reference.span := by
      by_contra hspan
      simp [enclosingStatement, hsite, hspan] at hslot
    refine ⟨occurrence.kind, List.mem_iff_getElem?.2 ⟨reference.ordinal, ?_⟩⟩
    simp [uses, List.getElem?_zipIdx, hsite, hspan]

/-- What the expansion of a program under `config` has come to: the imports that made `bindings` are
taken out, which left `taken`, and the marker calls in `pending` are left to do. -/
structure ImportsReach (program : Program) (config : Config) (bindings : List Binding)
    (taken current : Program) (pending : List Reference) (done : List Decorated) : Prop where
  takes : ∃ pattern, config.pattern = .ok pattern ∧
    program.takeImports pattern = (some bindings, taken)
  reaches : ∃ calls, (taken.references bindings).markerCalls = .ok calls ∧
    taken.Reaches calls current pending done

/-- The expansion of a program goes through such moments up to the program that it leaves. -/
theorem exists_importsReach_last {program taken : Program} {config : Config} {pattern : Pattern}
    {bindings : List Binding} (hpattern : config.pattern = .ok pattern)
    (htaken : program.takeImports pattern = (some bindings, taken)) :
    let expansion := program.expandImports config
    ∃ left, program.ImportsReach config bindings taken expansion.program left
        expansion.decorated ∧
      (expansion.failure = none → left = []) := by
  intro expansion
  obtain ⟨calls, hcalls⟩ : ∃ calls, (taken.references bindings).markerCalls = .ok calls :=
    ⟨_, taken.markerCalls_references (imported_of_takeImports htaken)⟩
  have hexpansion : expansion = taken.decorateAll calls := by
    simp only [expansion, expandImports, hpattern, htaken, expand, hcalls]
  obtain ⟨left, hlast, hleft, _⟩ := Reaches.start.exists_last
  rw [hexpansion]
  exact ⟨left, ⟨⟨pattern, hpattern, htaken⟩, ⟨calls, hcalls, by simpa using hlast⟩⟩, hleft⟩

/-- The marker is bound no more than once under its own name, and each call of it that stands in a
statement is all of that statement. -/
structure PlainlyMarked (program : Program) (bindings : List Binding) : Prop where
  once : (bindings.filter Binding.isMarker).length ≤ 1
  statements : ∀ binding ∈ bindings, binding.isMarker → program.CallsAreStatements binding.symbol

/-- In a plainly marked program, and in all that become of it, the marker calls are those of one
symbol at most. -/
theorem PlainlyMarked.exists_symbol {program : Program} {bindings : List Binding}
    (hmarked : program.PlainlyMarked bindings)
    (himported : bindings.any fun binding => binding.imported = markerName) :
    (∀ current : Program, (current.references bindings).markerCalls = .ok []) ∨
      ∃ symbol, symbol.name = markerName ∧ program.CallsAreStatements symbol ∧
        ∀ current : Program, (current.references bindings).markerCalls =
          .ok (callsFrom symbol 0 current.occurrences).reverse := by
  have hcalls := fun current : Program => current.markerCalls_references himported
  cases hmarkers : bindings.filter Binding.isMarker with
  | nil => exact .inl fun current => (hcalls current).trans (by rw [hmarkers]; rfl)
  | cons binding rest =>
    have hrest : rest = [] := by
      have honce := hmarked.once
      rw [hmarkers, List.length_cons] at honce
      exact List.eq_nil_of_length_eq_zero (by omega)
    subst hrest
    have hbinding : binding ∈ bindings.filter Binding.isMarker := by simp [hmarkers]
    obtain ⟨hmem, hmarker⟩ := List.mem_filter.1 hbinding
    have hname : binding.symbol.name = markerName := by
      simpa using (Bool.and_eq_true_iff.1 hmarker).2
    refine .inr ⟨binding.symbol, hname, hmarked.statements binding hmem hmarker, ?_⟩
    intro current
    rw [hcalls, hmarkers]
    simp [callsFrom, uses_eq_usesFrom]

variable {program current : Program} {symbol : Symbol} {pending : List Reference}
  {done : List Decorated}

/-- Where all marker calls are statements, each stays in place until its turn. -/
theorem CallsAreStatements.keeps (hcalls : program.CallsAreStatements symbol)
    (hreaches : program.Reaches (callsFrom symbol 0 program.occurrences).reverse current pending
      done) : ∀ reference ∈ pending, program.Keeps current reference :=
  hreaches.keeps_calls fun _ huse hkind _ hother _ hordinal =>
    hcalls.precedes huse hkind hother hordinal

/-- Where all marker calls are statements, a pending one still is the call that its statement is. -/
theorem CallsAreStatements.calleeSlot? (hcalls : program.CallsAreStatements symbol)
    (hreaches : program.Reaches (callsFrom symbol 0 program.occurrences).reverse current pending
      done) {reference : Reference} (hreference : reference ∈ pending) {slot : Slot}
    (hslot : current.enclosingStatement reference = .ok slot) :
    reference ∈ current.uses symbol ∧ reference.kind = .call ∧
      current.calleeSlot? reference = some slot := by
  have hkeeps := hcalls.keeps hreaches reference hreference
  obtain ⟨huse, hkind⟩ := mem_calls.1 (hreaches.suffix.subset hreference)
  refine ⟨symbol_of_mem_uses huse ▸ hkeeps.mem_uses, hkind, hkeeps.calleeSlot?.trans ?_⟩
  exact hcalls reference huse hkind slot (hkeeps.enclosingStatement.symm.trans hslot)

/-- Where all marker calls are statements, the statement around the next one is a call of it. -/
theorem ImportsReach.exists_call {taken : Program} {config : Config} {bindings : List Binding}
    {reference : Reference}
    (hcurrent : program.ImportsReach config bindings taken current (reference :: pending) done)
    (hmarked : taken.PlainlyMarked bindings) {slot : Slot}
    (hslot : current.enclosingStatement reference = .ok slot)
    (statement : StatementAt current slot) :
    ∃ span number callee arguments typeArguments,
      statement.expression.stripParens =
        .call span number (.ident callee) arguments typeArguments ∧
      callee.symbol = reference.symbol ∧ callee.span = reference.span := by
  obtain ⟨pattern, _, htaken⟩ := hcurrent.takes
  obtain ⟨calls, hcalls, hreaches⟩ := hcurrent.reaches
  obtain hnone | ⟨symbol, _, hstatements, hlisted⟩ :=
    hmarked.exists_symbol (imported_of_takeImports htaken)
  · rw [hnone] at hcalls
    cases hcalls
    cases List.suffix_nil.1 hreaches.suffix
  · rw [hlisted] at hcalls
    cases hcalls
    obtain ⟨huse, hkind, hcallee⟩ := hstatements.calleeSlot? hreaches List.mem_cons_self hslot
    rw [symbol_of_mem_uses huse]
    exact statement.exists_call huse hkind hcallee

/-- What a marker call that was carried out took away, and what it put in its place. -/
theorem exists_consumed_of_decorateReference {next : Program} {reference : Reference}
    {decorated : Decorated} (hstep : current.decorateReference reference = .ok (next, decorated)) :
    ∃ (slot : Slot) (statement : StatementAt current slot) (visit : Visit) (target : Target)
      (call : MarkerCall),
      current.enclosingStatement reference = .ok slot ∧
      current.visitOf? reference = some visit ∧ visit ∈ statement.visits ∧
      MarkerCall.ofStatement statement.span statement.expression = .ok call ∧
      target.withInit target.init = statement.right ∧
      next = statement.row.fill
        (statement.left ++ target.withInit (call.expansion target.init)) := by
  obtain ⟨slot, hslot, hdecorate⟩ := decorateReference_eq_ok.1 hstep
  obtain ⟨kind, huse⟩ := mem_uses_of_enclosingStatement hslot
  obtain ⟨visit, occurrence, hvisit, hoccurrence, _, hreference⟩ := exists_visit_of_mem_uses huse
  have hfound : current.visitOf? reference = some visit := by
    have hnoted := Visit.visitOf?_reference hvisit hoccurrence
    rwa [hreference] at hnoted
  obtain ⟨statement, hinside, _⟩ : ∃ statement : StatementAt current slot,
      visit ∈ statement.visits ∧ statement.place.before = visit.context.beforeStatement := by
    refine Visit.exists_statement hvisit hoccurrence ?_
    rwa [hreference]
  obtain ⟨new, hnew, rfl⟩ := statement.exists_new_of_decorate hdecorate
  obtain ⟨_, _, target, call, hstatement, hfind, hcall, rfl, _⟩ :=
    exists_call_of_decorateAt_zero hnew
  cases hstatement
  exact ⟨slot, statement, visit, target, call, hslot, hfound, hinside, hcall,
    Target.withInit_init hfind, rfl⟩

end Program

theorem Sample.plainlyMarked :
    Sample.program.PlainlyMarked [⟨markerName, Sample.marker⟩] := by
  have hslots : ∀ use ∈ Sample.program.uses Sample.marker, use.kind = .call →
      (Sample.program.enclosingStatement use).toOption = Sample.program.calleeSlot? use := by
    decide
  refine ⟨by decide, ?_⟩
  intro binding hbinding _ use huse hkind slot hslot
  cases List.mem_singleton.1 hbinding
  rw [← hslots use huse hkind, hslot]
  rfl

/-- What a marker call takes away is an expression statement that holds its identifier and calls a
plain name; in a plainly marked program the name that is called is that identifier. -/
theorem consumed_statement_is_marker_call {program taken current next : Program} {config : Config}
    {bindings : List Binding} {reference : Reference} {pending : List Reference}
    {done : List Decorated} {decorated : Decorated}
    (hcurrent : program.ImportsReach config bindings taken current (reference :: pending) done)
    (hstep : current.decorateReference reference = .ok (next, decorated)) :
    ∃ (slot : Slot) (statement : StatementAt current slot) (visit : Visit) (target : Target)
      (call : MarkerCall) (span : Span) (number : Nat) (callee : Ident)
      (typeArguments : Option Node),
      current.visitOf? reference = some visit ∧ visit ∈ statement.visits ∧
      statement.expression.stripParens = .call span number (.ident callee)
        (.argument none (.ident call.decorator) :: call.arguments) typeArguments ∧
      call.arguments ≠ [] ∧ target.withInit target.init = statement.right ∧
      next = statement.row.fill
        (statement.left ++ target.withInit (call.expansion target.init)) ∧
      (taken.PlainlyMarked bindings →
        callee.symbol = reference.symbol ∧ callee.span = reference.span) := by
  obtain ⟨slot, statement, visit, target, call, hslot, hfound, hinside, hcall, hright, hnext⟩ :=
    Program.exists_consumed_of_decorateReference hstep
  obtain ⟨span, number, callee, typeArguments, harguments, hexpression⟩ :=
    MarkerCall.of_ofStatement hcall
  refine ⟨slot, statement, visit, target, call, span, number, callee, typeArguments, hfound,
    hinside, hexpression, harguments, hright, hnext, ?_⟩
  intro hmarked
  obtain ⟨_, _, other, _, _, hother, hcallee⟩ := hcurrent.exists_call hmarked hslot statement
  rw [hexpression] at hother
  cases hother
  exact hcallee

theorem consumed_statement_is_marker_call_sample :
    let program := Sample.importing Sample.program
    ∃ taken reference pending next decorated,
      program.ImportsReach .default [⟨markerName, Sample.marker⟩] taken taken
        (reference :: pending) [] ∧
      taken.decorateReference reference = .ok (next, decorated) ∧
      taken.PlainlyMarked [⟨markerName, Sample.marker⟩] ∧
      ∃ (slot : Slot) (statement : StatementAt taken slot) (span : Span) (number : Nat)
        (callee : Ident) (arguments : List Node) (typeArguments : Option Node),
        statement.expression.stripParens =
          .call span number (.ident callee) arguments typeArguments ∧
        callee.symbol = reference.symbol ∧ callee.span = reference.span := by
  intro program
  have hstart : program.ImportsReach .default [⟨markerName, Sample.marker⟩] Sample.program
      Sample.program (⟨Sample.marker, 3, ⟨121, 129⟩, .call⟩ :: _) [] :=
    ⟨⟨_, by with_unfolding_all rfl, by with_unfolding_all rfl⟩, ⟨_, rfl, .start⟩⟩
  have hstep : Sample.program.decorateReference ⟨Sample.marker, 3, ⟨121, 129⟩, .call⟩ =
    .ok (_, _) := rfl
  obtain ⟨slot, statement, _, _, _, span, number, callee, typeArguments, _, _, hexpression, _, _,
    _, hcallee⟩ := consumed_statement_is_marker_call hstart hstep
  exact ⟨_, _, _, _, _, hstart, hstep, Sample.plainlyMarked, slot, statement, span, number,
    callee, _, typeArguments, hexpression, hcallee Sample.plainlyMarked⟩

/-- A call of something else that has a marker call among its arguments is taken away as well, and
the expansion reports no failure. -/
theorem other_call_consumed_for_its_argument :
    let taken := Sample.decorating (Sample.name "register" 0) (Sample.name "log" 9)
      (Sample.innerCall 14)
    let program := Sample.importing taken
    ∃ reference next decorated statement expanded,
      program.ImportsReach .default [⟨markerName, Sample.marker⟩] taken taken [reference] [] ∧
      taken.decorateReference reference = .ok (next, decorated) ∧
      taken.body = [.exprStmt ⟨0, 60⟩ statement, Sample.constant 61 "f" Sample.made] ∧
      next.body = [Sample.constant 61 "f" expanded] ∧
      statement.calls (Sample.name "register" 0).symbol ∧
      reference.symbol ≠ (Sample.name "register" 0).symbol ∧
      (program.expandImports .default).failure = none :=
  ⟨_, _, _, _, _, ⟨⟨_, by with_unfolding_all rfl, by with_unfolding_all rfl⟩,
    ⟨_, rfl, .start⟩⟩, rfl, rfl, rfl, by decide, by decide, by with_unfolding_all rfl⟩

end MarkerExpansion
