import MarkerExpansion.Proofs.Decoration.Earlier
import MarkerExpansion.Proofs.Decoration.Inversion

/-!
What a decoration changes.

A marker call that is carried out changes one statement list, and that in two places: its statement
goes, and the initializer of the first variable declaration after it becomes a call of the
decorator. Whether the old initializer is an argument of that call is left to the marker call.
-/

namespace MarkerExpansion

/-- An argument that stands for the decorated function: it is `decorate.target`, and not spread. -/
inductive StandsForTarget : Node → Prop
  | intro (span wordSpan : Span) (object : Ident) (hname : object.symbol.name = markerName) :
    StandsForTarget (.argument none (.member span (.ident object) (.word wordSpan targetName)))

theorem MarkerCall.isPlaceholder_iff {argument : Node} :
    isPlaceholder argument ↔ StandsForTarget argument := by
  constructor
  · intro hplaceholder
    unfold isPlaceholder at hplaceholder
    split at hplaceholder
    · next span object wordSpan property =>
      obtain ⟨hobject, hproperty⟩ := Bool.and_eq_true_iff.1 hplaceholder
      obtain rfl := of_decide_eq_true hproperty
      exact .intro span wordSpan object (of_decide_eq_true hobject)
    · cases hplaceholder
  · rintro ⟨span, wordSpan, object, hname⟩
    simp [isPlaceholder, hname]

/-- The arguments of a marker call, and those that its decorator gets: `function` takes the place of
each argument that stands for it, and the others are passed on. The number is that of the places
taken. -/
inductive Filled (function : Node) : List Node → List Node → Nat → Prop
  | nil : Filled function [] [] 0
  | placeholder {argument : Node} {arguments filled : List Node} {count : Nat}
      (hargument : StandsForTarget argument) (hrest : Filled function arguments filled count) :
    Filled function (argument :: arguments) (.argument none function :: filled) (count + 1)
  | passed {argument : Node} {arguments filled : List Node} {count : Nat}
      (hargument : ¬StandsForTarget argument) (hrest : Filled function arguments filled count) :
    Filled function (argument :: arguments) (argument :: filled) count

namespace Filled

variable {function : Node} {arguments filled : List Node} {count : Nat}

theorem map_fill (function : Node) (arguments : List Node) :
    Filled function arguments (arguments.map (MarkerCall.fill function))
      (arguments.countP MarkerCall.isPlaceholder) := by
  induction arguments with
  | nil => exact .nil
  | cons argument arguments ih =>
    rw [List.map_cons, List.countP_cons, MarkerCall.fill]
    by_cases hargument : MarkerCall.isPlaceholder argument
    · rw [if_pos hargument, if_pos hargument]
      exact .placeholder (MarkerCall.isPlaceholder_iff.1 hargument) ih
    · rw [if_neg hargument, if_neg hargument]
      exact .passed (fun hstands => hargument (MarkerCall.isPlaceholder_iff.2 hstands)) ih

theorem eq_map_fill (hfilled : Filled function arguments filled count) :
    filled = arguments.map (MarkerCall.fill function) ∧
      count = arguments.countP MarkerCall.isPlaceholder := by
  induction hfilled with
  | nil => exact ⟨rfl, rfl⟩
  | placeholder hargument _ ih =>
    obtain ⟨rfl, rfl⟩ := ih
    simp [MarkerCall.fill, MarkerCall.isPlaceholder_iff.2 hargument]
  | passed hargument _ ih =>
    obtain ⟨rfl, rfl⟩ := ih
    simp [MarkerCall.fill, MarkerCall.isPlaceholder_iff, hargument]

/-- One argument that stands for the function is enough to keep it. -/
theorem mem_of_standsForTarget (hfilled : Filled function arguments filled count) {argument : Node}
    (hargument : argument ∈ arguments) (hstands : StandsForTarget argument) :
    .argument none function ∈ filled ∧ 1 ≤ count := by
  induction hfilled with
  | nil => cases hargument
  | placeholder _ _ _ => exact ⟨List.mem_cons_self, Nat.le_add_left ..⟩
  | passed hpassed _ ih =>
    obtain rfl | hrest := List.mem_cons.1 hargument
    · exact absurd hstands hpassed
    · obtain ⟨hmem, hcount⟩ := ih hrest
      exact ⟨List.mem_cons_of_mem _ hmem, hcount⟩

/-- Where no argument stands for the function, it is not among those that the decorator gets: they
are all passed on as they are. -/
theorem eq_of_not_standsForTarget (hfilled : Filled function arguments filled count)
    (harguments : ∀ argument ∈ arguments, ¬StandsForTarget argument) :
    filled = arguments ∧ count = 0 := by
  induction hfilled with
  | nil => exact ⟨rfl, rfl⟩
  | placeholder hstands _ _ => exact absurd hstands (harguments _ List.mem_cons_self)
  | passed _ _ ih =>
    obtain ⟨rfl, hcount⟩ := ih fun argument hmem =>
      harguments argument (List.mem_cons_of_mem _ hmem)
    exact ⟨rfl, hcount⟩

end Filled

/-- A marker call at `slot` that meets all conditions, with what it decorates and with its place. -/
structure Decorable (program : Program) (slot : Slot) where
  /-- The place of the statement list that the call stands in. -/
  row : Row
  left : List Node
  span : Span
  expression : Node
  target : Target
  callSpan : Span
  context : Nat
  callee : Ident
  call : MarkerCall
  typeArguments : Option Node
  number : row.number? = some slot.container
  length : left.length = slot.index
  fill : row.fill (left ++ .exprStmt span expression
    :: (target.before ++ target.declaration.toNode :: target.after)) = program
  /-- The target is the first variable declaration after the call. -/
  first : ∀ node ∈ target.before, Declaration.ofNode? node = none
  declarators : target.declaration.declarators =
    [.declarator target.span target.definite target.pattern (some target.init)]
  shape : Target.isFunctionShaped target.init
  plain : expression.stripParens = .call callSpan context (.ident callee)
    (.argument none (.ident call.decorator) :: call.arguments) typeArguments
  nonempty : call.arguments ≠ []

namespace Decorable

variable {program : Program} {slot : Slot}

/-- The statement list that the call stands in. -/
def items (site : Decorable program slot) : List Node :=
  site.left ++ .exprStmt site.span site.expression
    :: (site.target.before ++ site.target.declaration.toNode :: site.target.after)

/-- The target, initialized by a call of the decorator with `arguments`. -/
def decorated (site : Decorable program slot) (arguments : List Node) : Declaration :=
  { site.target.declaration with
    declarators := [.declarator site.target.span site.target.definite site.target.pattern
      (some (.call .dummy 0 (.ident site.call.decorator) arguments none))] }

/-- The program in which the call is gone and the target is decorated. -/
def edited (site : Decorable program slot) (arguments : List Node) : Program :=
  site.row.fill (site.left
    ++ (site.target.before ++ (site.decorated arguments).toNode :: site.target.after))

theorem lists_container (site : Decorable program slot) :
    program.lists[slot.container]? = some site.items := by
  have hlists := Row.lists_number site.number site.items
  rwa [items, site.fill] at hlists

end Decorable

/-- A marker call that meets all conditions is carried out. -/
theorem Decorable.decorate {program : Program} {slot : Slot} (site : Decorable program slot) :
    program.decorate slot =
      .ok (site.edited (site.call.arguments.map (MarkerCall.fill site.target.init)),
        { decorator := site.call.decorator.symbol.name
          target := site.target.name?
          placeholders := site.call.arguments.countP MarkerCall.isPlaceholder }) := by
  have hfind : Target.find site.span
      (site.target.before ++ site.target.declaration.toNode :: site.target.after) =
        .ok site.target := by
    simp [Target.find, Declaration.first?_append _ _ site.first, site.declarators, site.shape]
  have hcall : MarkerCall.ofStatement site.span site.expression = .ok site.call := by
    obtain ⟨first, rest, harguments⟩ := List.exists_cons_of_ne_nil site.nonempty
    rw [MarkerCall.ofStatement, site.plain, harguments]
    simp only
    rw [← harguments]
  have hrow := Row.decorate_fill site.number site.items site.left.length
  rw [items, decorateAt_length_append, decorateAt_zero, hfind, hcall, site.fill, site.length]
    at hrow
  exact hrow

/-- A marker call that was carried out met all conditions, and nothing was changed beyond what it
says. -/
theorem Program.exists_decorable_of_decorate {program edited : Program} {slot : Slot}
    {decorated : Decorated} (hdecorate : program.decorate slot = .ok (edited, decorated)) :
    ∃ (site : Decorable program slot) (arguments : List Node),
      Filled site.target.init site.call.arguments arguments decorated.placeholders ∧
      edited = site.edited arguments ∧ decorated.decorator = site.call.decorator.symbol.name ∧
      decorated.target = site.target.name? := by
  obtain ⟨row, left, node, right, new, hnumber, hlength, hfill, rfl, hnew, _⟩ :=
    exists_place_of_decorate hdecorate
  obtain ⟨span, expression, target, call, rfl, hfind, hcall, rfl, rfl⟩ :=
    exists_call_of_decorateAt_zero hnew
  obtain ⟨hfirst, hdeclarators, hshape⟩ := Target.of_find hfind
  obtain ⟨hright, hbefore⟩ := Declaration.first?_eq_some hfirst
  obtain ⟨callSpan, context, callee, typeArguments, hnonempty, hplain⟩ :=
    MarkerCall.of_ofStatement hcall
  rw [hright] at hfill
  exact ⟨⟨row, left, span, expression, target, callSpan, context, callee, call, typeArguments,
    hnumber, hlength, hfill, hbefore, hdeclarators, hshape, hplain, hnonempty⟩, _,
    .map_fill target.init call.arguments, rfl, rfl, rfl⟩

/-- The name of a target, by the pattern that it is declared with. -/
theorem Target.name?_eq_iff {target : Target} {name : Option String} :
    target.name? = name ↔
      (∀ identifier typing, target.pattern = .binder identifier typing →
        name = some identifier.symbol.name) ∧
      ((∀ identifier typing, target.pattern ≠ .binder identifier typing) → name = none) := by
  unfold name?
  cases target.pattern with
  | binder identifier typing =>
    constructor
    · rintro rfl
      refine ⟨?_, fun hnone => absurd rfl (hnone identifier typing)⟩
      intro other _ hbinder
      cases hbinder
      rfl
    · rintro ⟨hname, _⟩
      exact (hname identifier typing rfl).symm
  | _ =>
    constructor
    · rintro rfl
      refine ⟨?_, fun _ => rfl⟩
      intro identifier typing hbinder
      cases hbinder
    · rintro ⟨_, hnone⟩
      refine (hnone ?_).symm
      intro identifier typing hbinder
      cases hbinder

/-- A decoration that is carried out takes the statement of the marker call out of its list and
gives the first declaration after it another initializer. Everything else stays as it is, and
nothing else is a decoration. -/
theorem decorate_edits_two_places {program edited : Program} {slot : Slot}
    {decorated : Decorated} :
    program.decorate slot = .ok (edited, decorated) ↔
      ∃ (site : Decorable program slot) (arguments : List Node),
        program.lists[slot.container]? = some site.items ∧
        Filled site.target.init site.call.arguments arguments decorated.placeholders ∧
        edited = site.row.fill (site.left
          ++ (site.target.before ++ (site.decorated arguments).toNode :: site.target.after)) ∧
        decorated.decorator = site.call.decorator.symbol.name ∧
        (∀ identifier typing, site.target.pattern = .binder identifier typing →
          decorated.target = some identifier.symbol.name) ∧
        ((∀ identifier typing, site.target.pattern ≠ .binder identifier typing) →
          decorated.target = none) := by
  constructor
  · intro hdecorate
    obtain ⟨site, arguments, hfilled, hedited, hdecorator, htarget⟩ :=
      Program.exists_decorable_of_decorate hdecorate
    exact ⟨site, arguments, site.lists_container, hfilled, hedited, hdecorator,
      Target.name?_eq_iff.1 htarget.symm⟩
  · rintro ⟨site, arguments, _, hfilled, rfl, hdecorator, htarget⟩
    obtain ⟨rfl, hplaceholders⟩ := hfilled.eq_map_fill
    obtain ⟨decorator, target, placeholders⟩ := decorated
    obtain rfl := hdecorator
    obtain rfl := Target.name?_eq_iff.2 htarget
    obtain rfl := hplaceholders
    exact site.decorate

/-- A decorated function stays an argument of the decorator if the marker call says where, and only
then. -/
theorem decorated_function_kept {program edited : Program} {slot : Slot} {decorated : Decorated}
    (hdecorate : program.decorate slot = .ok (edited, decorated)) :
    ∃ (site : Decorable program slot) (arguments : List Node),
      edited = site.edited arguments ∧
      (1 ≤ decorated.placeholders ↔ ∃ argument ∈ site.call.arguments, StandsForTarget argument) ∧
      (1 ≤ decorated.placeholders → .argument none site.target.init ∈ arguments) ∧
      (decorated.placeholders = 0 → arguments = site.call.arguments) := by
  obtain ⟨site, arguments, hfilled, hedited, _⟩ := Program.exists_decorable_of_decorate hdecorate
  by_cases hstands : ∃ argument ∈ site.call.arguments, StandsForTarget argument
  · obtain ⟨argument, hargument, htarget⟩ := hstands
    obtain ⟨hmem, hcount⟩ := hfilled.mem_of_standsForTarget hargument htarget
    exact ⟨site, arguments, hedited, ⟨fun _ => ⟨argument, hargument, htarget⟩, fun _ => hcount⟩,
      fun _ => hmem, fun hzero => by omega⟩
  · have hnone : ∀ argument ∈ site.call.arguments, ¬StandsForTarget argument :=
      fun argument hargument htarget => hstands ⟨argument, hargument, htarget⟩
    obtain ⟨harguments, hcount⟩ := hfilled.eq_of_not_standsForTarget hnone
    exact ⟨site, arguments, hedited, ⟨fun hpositive => by omega, fun hsome => absurd hsome hstands⟩,
      fun hpositive => by omega, fun _ => harguments⟩

theorem decorated_function_kept_sample :
    ∃ edited decorated, Sample.program.decorate ⟨1, 0⟩ = .ok (edited, decorated) ∧
      1 ≤ decorated.placeholders ∧
      ∃ (site : Decorable Sample.program ⟨1, 0⟩) (arguments : List Node),
        edited = site.edited arguments ∧ .argument none site.target.init ∈ arguments := by
  have hdecorate : Sample.program.decorate ⟨1, 0⟩ = .ok (_, _) := rfl
  obtain ⟨site, arguments, hedited, _, hkept, _⟩ := decorated_function_kept hdecorate
  exact ⟨_, _, hdecorate, by decide, site, arguments, hedited, hkept (by decide)⟩

/-- A marker call that says nowhere where its function goes is carried out all the same, and the
function is lost. -/
theorem decorated_function_lost :
    let passed := .ident (Sample.name "x" 15)
    let program := Sample.decorating (Sample.markerAt 0) (Sample.name "wrap" 9) passed
    ∃ edited decorated, program.decorate ⟨0, 0⟩ = .ok (edited, decorated) ∧
      ¬1 ≤ decorated.placeholders ∧
      program.body[1]? = some (Sample.constant 61 "f" Sample.made) ∧
      edited.body = [Sample.constant 61 "f"
        (.call .dummy 0 (.ident (Sample.name "wrap" 9)) [.argument none passed] none)] :=
  ⟨_, _, rfl, by decide, rfl, rfl⟩

end MarkerExpansion
