import MarkerExpansion.Proofs.Decoration.Inversion
import MarkerExpansion.Proofs.Expansion.Direct

/-!
The verdict on a marker call does not depend on the marker calls after it.

Marker calls that are carried out inside the items of a list change no outline, and those that are
carried out among the items after a marker call leave it the same declaration to decorate.
-/

namespace MarkerExpansion

namespace Node

variable {symbol : Symbol}

mutual

theorem outline_expandInside : ∀ {node expanded : Node},
    node.expandInside symbol = some expanded → expanded.outline = node.outline
  | .ident _, _, h => by cases h; rfl
  | .binder _ none, _, h => by cases h; rfl
  | .binder _ (some _), _, h => by
    rw [expandInside] at h
    obtain ⟨_, htyping, h⟩ := Option.bind_eq_some_iff.1 h
    cases h
    simp [outline_expandInside htyping]
  | .word _ _, _, h => by cases h; rfl
  | .call _ _ _ _ none, _, h => by
    rw [expandInside] at h
    obtain ⟨_, hcallee, h⟩ := Option.bind_eq_some_iff.1 h
    obtain ⟨_, harguments, h⟩ := Option.bind_eq_some_iff.1 h
    cases h
    simp [outline_expandInside hcallee, outline_expandEach harguments]
  | .call _ _ _ _ (some _), _, h => by
    rw [expandInside] at h
    obtain ⟨_, hcallee, h⟩ := Option.bind_eq_some_iff.1 h
    obtain ⟨_, harguments, h⟩ := Option.bind_eq_some_iff.1 h
    obtain ⟨_, htypeArguments, h⟩ := Option.bind_eq_some_iff.1 h
    cases h
    simp [outline_expandInside hcallee, outline_expandEach harguments,
      outline_expandInside htypeArguments]
  | .argument _ _, _, h => by
    rw [expandInside] at h
    obtain ⟨_, hvalue, h⟩ := Option.bind_eq_some_iff.1 h
    cases h
    simp [outline_expandInside hvalue]
  | .member _ _ _, _, h => by
    rw [expandInside] at h
    obtain ⟨_, hobject, h⟩ := Option.bind_eq_some_iff.1 h
    obtain ⟨_, hproperty, h⟩ := Option.bind_eq_some_iff.1 h
    cases h
    simp [outline_expandInside hobject, outline_expandInside hproperty]
  | .paren _ _, _, h => by
    rw [expandInside] at h
    obtain ⟨_, hinner, h⟩ := Option.bind_eq_some_iff.1 h
    cases h
    simp [outline_expandInside hinner]
  | .exprStmt _ _, _, h => by
    rw [expandInside] at h
    obtain ⟨_, hexpression, h⟩ := Option.bind_eq_some_iff.1 h
    cases h
    simp [outline_expandInside hexpression]
  | .varDecl _ _ _, _, h => by
    rw [expandInside] at h
    obtain ⟨_, hdeclarators, h⟩ := Option.bind_eq_some_iff.1 h
    cases h
    simp [outline_expandEach hdeclarators]
  | .declarator _ _ _ none, _, h => by
    rw [expandInside] at h
    obtain ⟨_, hpattern, h⟩ := Option.bind_eq_some_iff.1 h
    cases h
    simp [outline_expandInside hpattern]
  | .declarator _ _ _ (some _), _, h => by
    rw [expandInside] at h
    obtain ⟨_, hpattern, h⟩ := Option.bind_eq_some_iff.1 h
    obtain ⟨_, hinit, h⟩ := Option.bind_eq_some_iff.1 h
    cases h
    simp [outline_expandInside hpattern, outline_expandInside hinit]
  | .exportDecl _ _, _, h => by
    rw [expandInside] at h
    obtain ⟨_, hdeclaration, h⟩ := Option.bind_eq_some_iff.1 h
    cases h
    simp [outline_expandInside hdeclaration]
  | .importDecl _, _, h => by cases h; rfl
  | .block _ _ _, _, h => by
    rw [expandInside] at h
    obtain ⟨_, _, h⟩ := Option.bind_eq_some_iff.1 h
    obtain ⟨_, _, h⟩ := Option.bind_eq_some_iff.1 h
    cases h
    simp
  | .switchCase _ none _, _, h => by
    rw [expandInside] at h
    obtain ⟨_, _, h⟩ := Option.bind_eq_some_iff.1 h
    cases h
    simp
  | .switchCase _ (some _) _, _, h => by
    rw [expandInside] at h
    obtain ⟨_, htest, h⟩ := Option.bind_eq_some_iff.1 h
    obtain ⟨_, _, h⟩ := Option.bind_eq_some_iff.1 h
    cases h
    simp [outline_expandInside htest]
  | .other _ _, _, h => by
    rw [expandInside] at h
    obtain ⟨_, hchildren, h⟩ := Option.bind_eq_some_iff.1 h
    cases h
    simp [outline_expandEach hchildren]

theorem outline_expandEach : ∀ {nodes expanded : List Node},
    expandEach symbol nodes = some expanded → expanded.map outline = nodes.map outline
  | [], _, h => by cases h; rfl
  | _ :: _, _, h => by
    rw [expandEach] at h
    obtain ⟨_, hnode, h⟩ := Option.bind_eq_some_iff.1 h
    obtain ⟨_, hnodes, h⟩ := Option.bind_eq_some_iff.1 h
    cases h
    simp [outline_expandInside hnode, outline_expandEach hnodes]

end

theorem calls_outline (node : Node) : node.outline.calls symbol = node.calls symbol := by
  unfold calls
  rw [stripParens_outline]
  cases node.stripParens with
  | call span context callee arguments typeArguments => cases callee <;> simp
  | _ => simp

theorem isMarkerCall_outline (node : Node) :
    node.outline.isMarkerCall symbol = node.isMarkerCall symbol := by
  cases node <;> simp [isMarkerCall, calls_outline]

end Node

namespace Target

/-- Decorating a declaration leaves one that can be decorated under the same name. -/
theorem verdict_withInit {span : Span} {following : List Node} {target : Target} {init : Node}
    (hfind : find span following = .ok target) (hinit : isFunctionShaped init) (other : Span) :
    verdict other (target.withInit init) = verdict other following := by
  obtain ⟨hfirst, hdeclarators, hshape⟩ := of_find hfind
  obtain ⟨hfollowing, hbefore⟩ := Declaration.first?_eq_some hfirst
  have hold : verdict other following = .ok target.name? := by
    unfold verdict find
    simp [hfirst, hdeclarators, hshape, Except.map, name?]
  have hnew : verdict other (target.withInit init) = .ok target.name? := by
    unfold verdict find withInit
    simp [Declaration.first?_append _ _ hbefore, hinit, Except.map, name?]
  rw [hold, hnew]

theorem isFunctionShaped_expansion (call : MarkerCall) (function : Node) :
    isFunctionShaped (call.expansion function) := by
  simp [isFunctionShaped, MarkerCall.expansion, Node.stripParens, Node.isCall]

/-- The verdict is about the first declaration, wherever it stands. -/
theorem verdict_of_first? {span : Span} {following before after : List Node}
    {declaration : Declaration}
    (hfirst : Declaration.first? following = some (before, declaration, after)) :
    verdict span following = verdict span [declaration.toNode] := by
  have hsingle : Declaration.first? [declaration.toNode] = some ([], declaration, []) := by
    simp [Declaration.first?]
  unfold verdict find
  rw [hfirst, hsingle]
  cases hdeclarators : declaration.declarators with
  | nil => simp [hdeclarators, Except.map]
  | cons declarator others =>
    cases others with
    | cons _ _ => simp [hdeclarators, Except.map]
    | nil =>
      cases declarator with
      | declarator span definite pattern init =>
        cases init with
        | none => simp [hdeclarators, Except.map]
        | some init =>
          by_cases hshape : isFunctionShaped init <;>
            simp [hdeclarators, hshape, Except.map, name?]
      | _ => simp [hdeclarators, Except.map]

theorem verdict_cons_of_ofNode? {item : Node} (hitem : Declaration.ofNode? item = none)
    (span : Span) (items : List Node) : verdict span (item :: items) = verdict span items := by
  cases hitems : Declaration.first? items with
  | none =>
    unfold verdict find
    simp [Declaration.first?, hitem, hitems]
  | some found =>
    obtain ⟨before, declaration, after⟩ := found
    have hcons : Declaration.first? (item :: items) =
        some (item :: before, declaration, after) := by
      simp [Declaration.first?, hitem, hitems]
    rw [verdict_of_first? hitems, verdict_of_first? hcons]

theorem verdict_cons {item : Node} {items others : List Node} {span : Span}
    (hothers : verdict span others = verdict span items) :
    verdict span (item :: others) = verdict span (item :: items) := by
  cases hitem : Declaration.ofNode? item with
  | none => rw [verdict_cons_of_ofNode? hitem, verdict_cons_of_ofNode? hitem, hothers]
  | some declaration =>
    have hsome (nodes : List Node) :
        Declaration.first? (item :: nodes) = some ([], declaration, nodes) := by
      simp [Declaration.first?, hitem]
    rw [verdict_of_first? (hsome items), verdict_of_first? (hsome others)]

/-- Carrying out marker calls leaves the same declaration to those before them. -/
theorem verdict_carryOut {symbol : Symbol} {items carried : List Node}
    (hcarried : Node.carryOut symbol items = some carried) (span : Span) :
    verdict span carried = verdict span items := by
  induction items generalizing carried with
  | nil =>
    cases hcarried
    rfl
  | cons item items ih =>
    rw [Node.carryOut_cons] at hcarried
    obtain ⟨rest, hrest, hcarried⟩ := Option.bind_eq_some_iff.1 hcarried
    have hitems := ih hrest
    split at hcarried
    · next hmarker =>
      cases item with
      | exprStmt itemSpan expression =>
        rw [verdict_cons_of_ofNode? rfl, ← hitems]
        rw [decorateAt_zero] at hcarried
        cases hfind : find itemSpan rest with
        | error error => simp [hfind, bind, Except.bind, Except.toOption] at hcarried
        | ok target =>
          cases hcall : MarkerCall.ofStatement itemSpan expression with
          | error error => simp [hfind, hcall, bind, Except.bind, Except.toOption] at hcarried
          | ok call =>
            simp [hfind, hcall, bind, Except.bind, Except.toOption, pure, Except.pure] at hcarried
            subst hcarried
            exact verdict_withInit hfind (isFunctionShaped_expansion call _) span
      | _ => simp [Node.isMarkerCall] at hmarker
    · cases hcarried
      exact verdict_cons hitems

end Target

/-- A marker call has the same outcome before and after everything that follows its beginning is
expanded. -/
theorem decorateAt_zero_expanded {symbol : Symbol} {item expanded : Node}
    {items inside carried : List Node} (hmarker : item.isMarkerCall symbol)
    (hitem : item.expandInside symbol = some expanded)
    (hitems : Node.expandEach symbol items = some inside)
    (hcarried : Node.carryOut symbol inside = some carried) :
    (decorateAt (expanded :: carried) 0).map Prod.snd =
      (decorateAt (item :: items) 0).map Prod.snd := by
  cases item with
  | exprStmt span expression =>
    rw [Node.expandInside] at hitem
    obtain ⟨inner, hinner, hitem⟩ := Option.bind_eq_some_iff.1 hitem
    cases hitem
    have htarget : Target.verdict span carried = Target.verdict span items := by
      rw [Target.verdict_carryOut hcarried, ← Target.verdict_outline,
        Node.outline_expandEach hitems, Target.verdict_outline]
    have hcall : MarkerCall.verdict span inner = MarkerCall.verdict span expression := by
      rw [← MarkerCall.verdict_outline, Node.outline_expandInside hinner,
        MarkerCall.verdict_outline]
    rw [decorateAt_zero_verdict, decorateAt_zero_verdict, htarget, hcall]
  | _ => simp [Node.isMarkerCall] at hmarker

end MarkerExpansion
