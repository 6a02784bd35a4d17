import MarkerExpansion.Proofs.Decoration.Outline

/-!
What can be read off a decoration that was carried out.

A decoration looks for the declaration after a marker call, reads the call and then changes the one
initializer. Each of these is turned round here, so that nothing about a decoration has to be proved
by going through all the ways in which it can fail.
-/

namespace MarkerExpansion

theorem Declaration.first?_append {before : List Node} (declaration : Declaration)
    (after : List Node) (hbefore : ∀ node ∈ before, ofNode? node = none) :
    first? (before ++ declaration.toNode :: after) = some (before, declaration, after) := by
  induction before with
  | nil => simp [first?]
  | cons node nodes ih =>
    have hnode := hbefore node (List.mem_cons_self ..)
    have hnodes := ih fun other hother => hbefore other (List.mem_cons_of_mem _ hother)
    simp [first?, hnode, hnodes]

namespace Target

theorem of_find {span : Span} {following : List Node} {target : Target}
    (hfind : find span following = .ok target) :
    Declaration.first? following = some (target.before, target.declaration, target.after) ∧
      target.declaration.declarators =
        [.declarator target.span target.definite target.pattern (some target.init)] ∧
      isFunctionShaped target.init := by
  unfold find at hfind
  split at hfind
  · cases hfind
  · next before declaration after hfirst =>
    split at hfind
    · cases hfind
    · next hdeclarators =>
      split at hfind
      · next hshape =>
        cases hfind
        exact ⟨hfirst, hdeclarators, hshape⟩
      · cases hfind
    · cases hfind
    · cases hfind

/-- The nodes after a marker call are those with the initializer that was found. -/
theorem withInit_init {span : Span} {following : List Node} {target : Target}
    (hfind : find span following = .ok target) : target.withInit target.init = following := by
  obtain ⟨hfirst, hdeclarators, _⟩ := of_find hfind
  rw [(Declaration.first?_eq_some hfirst).1, withInit, ← hdeclarators]

end Target

/-- A marker call calls a plain name. Its first argument is the decorator, and there are more. -/
theorem MarkerCall.of_ofStatement {span : Span} {expression : Node} {call : MarkerCall}
    (hcall : ofStatement span expression = .ok call) :
    ∃ callSpan context callee typeArguments, call.arguments ≠ [] ∧
      expression.stripParens = .call callSpan context (.ident callee)
        (.argument none (.ident call.decorator) :: call.arguments) typeArguments := by
  unfold ofStatement at hcall
  split at hcall
  · next callSpan context callee arguments typeArguments hexpression =>
    split at hcall
    · cases hcall
      exact ⟨callSpan, context, callee, typeArguments, List.cons_ne_nil _ _, hexpression⟩
    · cases hcall
    · cases hcall
  · cases hcall
  · cases hcall

/-- What was found and read for a marker call that was carried out, and what became of it. -/
theorem exists_call_of_decorateAt_zero {node : Node} {right new : List Node}
    {decorated : Decorated} (hdecorate : decorateAt (node :: right) 0 = .ok (new, decorated)) :
    ∃ span expression target call, node = .exprStmt span expression ∧
      Target.find span right = .ok target ∧ MarkerCall.ofStatement span expression = .ok call ∧
      new = target.withInit (call.expansion target.init) ∧
      decorated = { decorator := call.decorator.symbol.name
                    target := target.name?
                    placeholders := call.arguments.countP MarkerCall.isPlaceholder } := by
  cases node with
  | exprStmt span expression =>
    rw [decorateAt_zero] at hdecorate
    cases hfind : Target.find span right with
    | error error => simp [hfind, bind, Except.bind] at hdecorate
    | ok target =>
      cases hcall : MarkerCall.ofStatement span expression with
      | error error => simp [hfind, hcall, bind, Except.bind] at hdecorate
      | ok call =>
        simp only [hfind, hcall, bind, Except.bind, pure, Except.pure, Except.ok.injEq,
          Prod.mk.injEq] at hdecorate
        obtain ⟨rfl, rfl⟩ := hdecorate
        exact ⟨span, expression, target, call, rfl, hfind, hcall, rfl, rfl⟩
  | _ => cases hdecorate

end MarkerExpansion
