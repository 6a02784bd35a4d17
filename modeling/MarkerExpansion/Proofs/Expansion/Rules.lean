import MarkerExpansion.Proofs.Decoration.Earlier
import MarkerExpansion.Proofs.Decoration.InPlace
import MarkerExpansion.Proofs.Expansion.Reach

/-!
The rules for marker calls.

Each rule is stated by itself, with what is reported where it is violated. A marker call is refused
with the report of the first rule that it violates, and the program is left as it was. A marker call
that violates none is carried out.
-/

namespace MarkerExpansion

/-- What is reported of a violation: a place in the source, and a text. -/
abbrev Report := Span × String

/-- What is reported of a computation that fails. -/
def reported {α : Type} : Except Error α → Option Report
  | .ok _ => none
  | .error error => some (error.span, error.message)

/-- An expression statement, with the items after it in its list. -/
structure Statement where
  span : Span
  expression : Node
  following : List Node

/-- The first variable declaration after a statement. -/
def Statement.declaration? (statement : Statement) : Option Declaration :=
  statement.following.findSome? Declaration.ofNode?

/-- The expression statement at `index` of a list. -/
def Statement.ofItems? (items : List Node) (index : Nat) : Option Statement :=
  match items[index]? with
  | some (.exprStmt span expression) => some ⟨span, expression, items.drop (index + 1)⟩
  | _ => none

namespace Node

def isIdent : Node → Bool
  | .ident _ => true
  | _ => false

/-- Whether an argument is a name, and not spread. -/
def isPlainName : Node → Bool
  | .argument none (.ident _) => true
  | _ => false

/-- Whether a declarator has an arrow function or a call as its initializer, in parentheses or
not. -/
def declaresFunction : Node → Bool
  | .declarator _ _ _ (some init) => init.stripParens.isArrow || init.stripParens.isCall
  | _ => false

end Node

/-- The rules for the statement of a marker call. -/
inductive Rule where
  /-- A variable declaration follows the statement. -/
  | declaration
  /-- The first declaration that follows has no more than one declarator. -/
  | oneDeclarator
  | someDeclarator
  /-- Its declarator is initialized by a function, as far as that can be seen. -/
  | function
  /-- The statement is a call. -/
  | call
  | plainCallee
  | twoArguments
  /-- The first argument is a name. -/
  | decorator
  deriving DecidableEq

namespace Rule

/-- The rules for what is decorated. -/
def ofTarget : List Rule := [declaration, oneDeclarator, someDeclarator, function]

/-- The rules for the call. -/
def ofCall : List Rule := [call, plainCallee, twoArguments, decorator]

/-- The text that is reported of a violation. -/
def text : Rule → String
  | declaration => "Can not find function to decorate"
  | oneDeclarator => "One declaration should contain one declarator"
  | someDeclarator => "Declaration has no declarator"
  | function =>
    "Decorated declaration should be initialized with an arrow function or a call expression"
  | call => "Decorator call should be a plain function call"
  | plainCallee => "Decorator call should be a plain function call"
  | twoArguments => "Decorator call should receive a decorator and at least one argument"
  | decorator => "Decorator should be an identifier"

/-- Where a statement violates a rule, if it does. The other rules do not matter here. -/
def violated? (statement : Statement) : Rule → Option Span
  | declaration => if statement.declaration?.isSome then none else some statement.span
  | oneDeclarator => statement.declaration?.bind fun declaration =>
    if declaration.declarators.length ≤ 1 then none else some declaration.span
  | someDeclarator => statement.declaration?.bind fun declaration =>
    if 1 ≤ declaration.declarators.length then none else some declaration.span
  | function => statement.declaration?.bind fun declaration =>
    declaration.declarators.head?.bind fun declarator =>
      if declarator.declaresFunction then none else some declarator.span
  | call => if statement.expression.stripParens.isCall then none else some statement.span
  | plainCallee =>
    match statement.expression.stripParens with
    | .call span _ callee _ _ => if callee.isIdent then none else some span
    | _ => none
  | twoArguments =>
    match statement.expression.stripParens with
    | .call span _ _ arguments _ => if 2 ≤ arguments.length then none else some span
    | _ => none
  | decorator =>
    match statement.expression.stripParens with
    | .call _ _ _ (first :: _) _ => if first.isPlainName then none else some first.span
    | _ => none

/-- What is reported of a statement that violates a rule. -/
def report? (statement : Statement) (rule : Rule) : Option Report :=
  (rule.violated? statement).map fun span => (span, rule.text)

end Rule

/-- What is reported of a statement as a marker call: its first violation. -/
def Statement.report? (statement : Statement) : Option Report :=
  (Rule.ofTarget ++ Rule.ofCall).findSome? (Rule.report? statement)

/-- Why the item at `slot` is refused as a marker call: it is no expression statement, or there is a
first rule that it violates. -/
def Program.refusal? (program : Program) (slot : Slot) : Option Report :=
  ((program.lists[slot.container]?).bind fun items => Statement.ofItems? items slot.index).elim
    (some (.dummy, "Expression not found")) Statement.report?

theorem Declaration.findSome?_ofNode? (nodes : List Node) :
    nodes.findSome? ofNode? = (first? nodes).map fun (_, declaration, _) => declaration := by
  induction nodes with
  | nil => rfl
  | cons node nodes ih =>
    rw [List.findSome?_cons, first?]
    cases ofNode? node with
    | some declaration => rfl
    | none => simp [ih, Function.comp_def]

namespace Target

/-- A declaration with one declarator is judged by the initializer of that. -/
theorem reported_find_of_declarator {statement : Statement} {before after : List Node}
    {declaration : Declaration} {declarator : Node}
    (hfirst : Declaration.first? statement.following = some (before, declaration, after))
    (hdeclarators : declaration.declarators = [declarator]) :
    reported (find statement.span statement.following) =
      if declarator.declaresFunction then none
      else some (declarator.span, Rule.function.text) := by
  rw [find, hfirst]
  simp only [hdeclarators]
  cases declarator with
  | declarator span definite pattern init =>
    cases init with
    | none => rfl
    | some init =>
      have hfunction : (Node.declarator span definite pattern (some init)).declaresFunction =
          isFunctionShaped init := rfl
      rw [hfunction]
      dsimp only
      by_cases hshape : isFunctionShaped init
      · rw [if_pos hshape, if_pos hshape]
        rfl
      · rw [if_neg hshape, if_neg hshape]
        rfl
  | _ => rfl

/-- What is reported of the declaration after a marker call is the first violation of the rules for
it. -/
theorem reported_find (statement : Statement) :
    reported (find statement.span statement.following) =
      Rule.ofTarget.findSome? (Rule.report? statement) := by
  have hdeclaration : statement.declaration? = _ :=
    Declaration.findSome?_ofNode? statement.following
  cases hfirst : Declaration.first? statement.following with
  | none =>
    have hreport : Rule.ofTarget.findSome? (Rule.report? statement) =
        some (statement.span, Rule.declaration.text) := by
      simp [Rule.ofTarget, Rule.report?, Rule.violated?, hdeclaration, hfirst]
    rw [hreport, find, hfirst]
    rfl
  | some found =>
    obtain ⟨before, declaration, after⟩ := found
    -- At most one of the rules for the number of declarators is violated, whichever comes first.
    rcases hdeclarators : declaration.declarators with _ | ⟨declarator, _ | ⟨second, rest⟩⟩
    · have hreport : Rule.ofTarget.findSome? (Rule.report? statement) =
          some (declaration.span, Rule.someDeclarator.text) := by
        simp [Rule.ofTarget, Rule.report?, Rule.violated?, hdeclaration, hfirst, hdeclarators]
      rw [hreport, find, hfirst]
      simp only [hdeclarators]
      rfl
    · rw [reported_find_of_declarator hfirst hdeclarators]
      by_cases hfunction : declarator.declaresFunction <;>
        simp [Rule.ofTarget, Rule.report?, Rule.violated?, hdeclaration, hfirst, hdeclarators,
          hfunction]
    · have hreport : Rule.ofTarget.findSome? (Rule.report? statement) =
          some (declaration.span, Rule.oneDeclarator.text) := by
        simp [Rule.ofTarget, Rule.report?, Rule.violated?, hdeclaration, hfirst, hdeclarators]
      rw [hreport, find, hfirst]
      simp only [hdeclarators]
      rfl

end Target

/-- The rules for a plain call are about its arguments. -/
theorem Rule.findSome?_ofCall_of_call {statement : Statement} {span : Span} {context : Nat}
    {callee : Ident} {arguments : List Node} {typeArguments : Option Node}
    (hexpression : statement.expression.stripParens =
      .call span context (.ident callee) arguments typeArguments) :
    ofCall.findSome? (report? statement) =
      [twoArguments, decorator].findSome? (report? statement) := by
  simp [ofCall, report?, violated?, hexpression, Node.isCall, Node.isIdent]

/-- What is reported of the statement of a marker call is the first violation of the rules for
calls. -/
theorem MarkerCall.reported_ofStatement (statement : Statement) :
    reported (ofStatement statement.span statement.expression) =
      Rule.ofCall.findSome? (Rule.report? statement) := by
  unfold ofStatement
  split
  · next span context callee arguments typeArguments hexpression =>
    rw [Rule.findSome?_ofCall_of_call hexpression]
    split
    · next decorator first rest =>
      simp [reported, Rule.report?, Rule.violated?, hexpression, Node.isPlainName]
    -- There are two arguments, and the first one is no name.
    · next decorator second rest hdecorator =>
      have hname : decorator.isPlainName = false := by
        unfold Node.isPlainName
        split
        · exact (hdecorator _ rfl).elim
        · rfl
      have hreport : [Rule.twoArguments, .decorator].findSome? (Rule.report? statement) =
          some (decorator.span, Rule.decorator.text) := by
        simp [Rule.report?, Rule.violated?, hexpression, hname]
      rw [hreport]
      rfl
    · next _ hfew =>
      have hlength : ¬2 ≤ arguments.length := by
        rcases arguments with _ | ⟨first, _ | ⟨second, rest⟩⟩
        · simp
        · simp
        · exact (hfew _ _ _ rfl).elim
      have hreport : [Rule.twoArguments, .decorator].findSome? (Rule.report? statement) =
          some (span, Rule.twoArguments.text) := by
        simp [Rule.report?, Rule.violated?, hexpression, hlength]
      rw [hreport]
      rfl
  · next span context callee arguments typeArguments hcallee hexpression =>
    have hident : callee.isIdent = false := by
      cases callee with
      | ident callee => exact absurd rfl (hcallee callee)
      | _ => rfl
    have hreport : Rule.ofCall.findSome? (Rule.report? statement) =
        some (span, Rule.plainCallee.text) := by
      simp [Rule.ofCall, Rule.report?, Rule.violated?, hexpression, Node.isCall, hident]
    rw [hreport]
    rfl
  · next _ hcall =>
    have hother : statement.expression.stripParens.isCall = false := by
      cases hexpression : statement.expression.stripParens with
      | call => exact absurd hexpression (hcall _ _ _ _ _)
      | _ => rfl
    have hreport : Rule.ofCall.findSome? (Rule.report? statement) =
        some (statement.span, Rule.call.text) := by
      simp [Rule.ofCall, Rule.report?, Rule.violated?, hother]
    rw [hreport]
    rfl

namespace Statement

theorem of_ofItems? {items : List Node} {index : Nat} {statement : Statement}
    (hitems : ofItems? items index = some statement) :
    ∃ left, left.length = index ∧
      items = left ++ .exprStmt statement.span statement.expression :: statement.following := by
  unfold ofItems? at hitems
  split at hitems
  · next span expression hitem =>
    cases hitems
    obtain ⟨hindex, hitem⟩ := List.getElem?_eq_some_iff.1 hitem
    exact ⟨items.take index, by simp; omega, by simp [← hitem]⟩
  · cases hitems

theorem decorateAt_of_ofItems?_eq_none {items : List Node} {index : Nat}
    (hitems : ofItems? items index = none) :
    decorateAt items index = .error ⟨.dummy, .notFound⟩ := by
  unfold decorateAt
  split
  · next span expression following hdrop =>
    have hitem : items[index]? = some (.exprStmt span expression) := by
      rw [← List.head?_drop, hdrop, List.head?_cons]
    simp [ofItems?, hitem] at hitems
  · rfl

/-- The declaration is looked at before the call, so that its rules come first. -/
theorem reported_decorateAt (left : List Node) (statement : Statement) :
    reported (decorateAt
      (left ++ .exprStmt statement.span statement.expression :: statement.following)
      left.length) = statement.report? := by
  rw [report?, List.findSome?_append, ← Target.reported_find, ← MarkerCall.reported_ofStatement,
    decorateAt_length_append, decorateAt_zero]
  cases Target.find statement.span statement.following with
  | error error => rfl
  | ok target =>
    cases MarkerCall.ofStatement statement.span statement.expression with
    | error error => rfl
    | ok call => rfl

end Statement

theorem Program.reported_decorate (program : Program) (slot : Slot) :
    reported (program.decorate slot) = program.refusal? slot := by
  unfold decorate refusal?
  cases program.lists[slot.container]? with
  | none => rfl
  | some items =>
    rw [Option.bind_some]
    cases hstatement : Statement.ofItems? items slot.index with
    | none =>
      simp only [Statement.decorateAt_of_ofItems?_eq_none hstatement]
      rfl
    | some statement =>
      obtain ⟨left, hlength, rfl⟩ := Statement.of_ofItems? hstatement
      have hreported := statement.reported_decorateAt left
      rw [hlength] at hreported
      rw [Option.elim_some, ← hreported]
      dsimp only
      cases decorateAt _ slot.index with
      | error error => rfl
      | ok result => rfl

namespace Program

variable {program : Program}

/-- A marker call that is refused leaves the program as it was. What is reported is the first rule
that it violates. -/
theorem edit_of_decorate_eq_error {slot : Slot} {error : Error}
    (hdecorate : program.decorate slot = .error error) :
    program.edit slot = (.error error, program) ∧
      program.refusal? slot = some (error.span, error.message) := by
  have hreported := program.reported_decorate slot
  rw [hdecorate] at hreported
  rw [edit_eq, hdecorate]
  exact ⟨rfl, hreported.symm⟩

theorem decorate_of_refusal?_eq_none {slot : Slot} (hrefusal : program.refusal? slot = none) :
    ∃ edited decorated, program.decorate slot = .ok (edited, decorated) ∧
      program.edit slot = (.ok decorated, edited) := by
  have hreported := program.reported_decorate slot
  rw [hrefusal] at hreported
  rw [edit_eq]
  cases hdecorate : program.decorate slot with
  | error error =>
    rw [hdecorate] at hreported
    cases hreported
  | ok result => exact ⟨result.1, result.2, rfl, rfl⟩

/-- A call of the marker fails if it is no statement of a list, or if that statement is refused. -/
theorem refusal?_of_decorateReference {reference : Reference} {error : Error}
    (hreference : program.decorateReference reference = .error error) :
    program.enclosingStatement reference = .error error ∨
      ∃ slot, program.enclosingStatement reference = .ok slot ∧
        program.refusal? slot = some (error.span, error.message) := by
  rw [decorateReference] at hreference
  cases hslot : program.enclosingStatement reference with
  | error other =>
    rw [hslot] at hreference
    cases hreference
    exact .inl rfl
  | ok slot =>
    rw [hslot] at hreference
    exact .inr ⟨slot, rfl, (edit_of_decorate_eq_error hreference).2⟩

end Program

/-- A marker call that violates a rule changes nothing and is reported with the first rule that it
violates, and a marker call that violates none is carried out. An expansion that fails has done what
the calls before the failing one ask for and nothing else, and reports the failing one. -/
theorem refused_by_first_rule (program : Program) :
    (∀ slot error, program.decorate slot = .error error →
      program.edit slot = (.error error, program) ∧
        program.refusal? slot = some (error.span, error.message)) ∧
    (∀ slot, program.refusal? slot = none → ∃ edited decorated,
      program.decorate slot = .ok (edited, decorated) ∧
        program.edit slot = (.ok decorated, edited)) ∧
    ∀ references error, (program.expand references).failure = some error →
      (references.markerCalls = .error error ∧
        program.expand references = { program, decorated := [], failure := some error }) ∨
      ∃ calls reference rest, references.markerCalls = .ok calls ∧
        let left := (program.expand references).program
        program.Reaches calls left (reference :: rest) (program.expand references).decorated ∧
        (left.enclosingStatement reference = .error error ∨
          ∃ slot, left.enclosingStatement reference = .ok slot ∧
            left.refusal? slot = some (error.span, error.message)) := by
  refine ⟨?_, ?_, ?_⟩
  · intro slot error
    exact Program.edit_of_decorate_eq_error
  · intro slot
    exact Program.decorate_of_refusal?_eq_none
  · intro references error hfailure
    obtain hcalls | ⟨calls, reference, rest, hcalls, hreaches, hreference⟩ :=
      Program.failure_expand hfailure
    · exact .inl hcalls
    · exact .inr ⟨calls, reference, rest, hcalls, hreaches,
        Program.refusal?_of_decorateReference hreference⟩

theorem refused_by_first_rule_sample :
    let program := Sample.unfinished
    let references := program.references [⟨markerName, Sample.marker⟩]
    let error : Error := ⟨⟨215, 255⟩, .noDeclaration⟩
    program.decorate ⟨1, 0⟩ = .error error ∧
    program.edit ⟨1, 0⟩ = (.error error, program) ∧
    program.refusal? ⟨1, 0⟩ = some (⟨215, 255⟩, Rule.declaration.text) ∧
    (program.refusal? ⟨0, 1⟩ = none ∧ ∃ edited decorated,
      program.decorate ⟨0, 1⟩ = .ok (edited, decorated)) ∧
    (program.expand references).failure = some error ∧
    ∃ calls reference rest, references.markerCalls = .ok calls ∧
      program.Reaches calls (program.expand references).program (reference :: rest)
        (program.expand references).decorated := by
  intro program references error
  obtain ⟨hrefused, hdone, hexpand⟩ := refused_by_first_rule Sample.unfinished
  obtain ⟨hedit, hrefusal⟩ := hrefused ⟨1, 0⟩ error rfl
  obtain ⟨edited, decorated, hdecorate, _⟩ := hdone ⟨0, 1⟩ rfl
  refine ⟨rfl, hedit, hrefusal, ⟨rfl, edited, decorated, hdecorate⟩, rfl, ?_⟩
  obtain ⟨hcalls, _⟩ | ⟨calls, reference, rest, hcalls, hreaches, _⟩ :=
    hexpand references error rfl
  · cases hcalls
  · exact ⟨calls, reference, rest, hcalls, hreaches⟩

end MarkerExpansion
