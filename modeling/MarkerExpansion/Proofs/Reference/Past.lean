import MarkerExpansion.Proofs.Reference.Visit

/-!
The part of a program that a walk has seen.

When a walk comes to a place it has seen the program up to there: the place with everything after it
erased. All that the places of two programs are compared by is known from that part, and whatever is
put in the place of something later leaves it as it is.
-/

namespace MarkerExpansion

/-- The frame with everything after its hole erased. -/
@[simp] def Frame.past : Frame → Frame
  | .callCallee span context _ _ => .callCallee span context [] none
  | .memberObject span _ => .memberObject span (.word .dummy "")
  | .declaratorPattern span definite _ => .declaratorPattern span definite none
  | .switchTest span _ => .switchTest span []
  | frame => frame

mutual

/-- The place with everything after it erased. -/
@[simp] def Context.past : Context → Context
  | .frame outer frame => .frame outer.past frame.past
  | .item row left _ => .item row.past left []

@[simp] def Row.past : Row → Row
  | .body kind span interpreter => .body kind span interpreter
  | .block outer span kind => .block outer.past span kind
  | .branch outer span test => .branch outer.past span test
  | .arguments outer span context callee _ => .arguments outer.past span context callee none
  | .declarators outer span header => .declarators outer.past span header
  | .children outer form => .children outer.past form

end

namespace Frame

@[simp] theorem listsBefore_past (frame : Frame) : frame.past.listsBefore = frame.listsBefore := by
  cases frame <;> rfl

@[simp] theorem around_past (frame : Frame) (surroundings : Surroundings) :
    frame.past.around surroundings = frame.around surroundings := by
  cases frame <;> rfl

@[simp] theorem before_past (frame : Frame) (first : Nat) (surroundings : Surroundings) :
    frame.past.before first surroundings = frame.before first surroundings := by
  cases frame <;> rfl

end Frame

mutual

theorem Context.first_past : ∀ context : Context, context.past.first = context.first
  | .frame outer frame => by
    rw [Context.past, Context.first, Context.first, outer.first_past, frame.listsBefore_past]
  | .item row left right => by simp [row.first_past]

theorem Row.first_past : ∀ row : Row, row.past.first = row.first
  | .body .. => rfl
  | .block outer _ _ => by simp [outer.first_past]
  | .branch outer _ none => by simp [outer.first_past]
  | .branch outer _ (some _) => by simp [outer.first_past]
  | .arguments outer _ _ _ _ => by simp [outer.first_past]
  | .declarators outer _ _ => by simp [outer.first_past]
  | .children outer _ => by simp [outer.first_past]

end

theorem Row.container_past (row : Row) : row.past.container = row.container := by
  cases row <;> simp [Row.container, Context.first_past]

mutual

theorem Context.around_past : ∀ context : Context, context.past.around = context.around
  | .frame outer frame => by
    rw [Context.past, Context.around, Context.around, outer.around_past, frame.around_past]
  | .item row left right => by simp [row.container_past, row.anchor_past]

theorem Row.anchor_past : ∀ row : Row, row.past.anchor = row.anchor
  | .body .. => rfl
  | .block outer _ _ => by simp [outer.around_past]
  | .branch outer _ _ => by simp [outer.around_past]
  | .arguments outer _ _ _ _ => by simp [outer.around_past]
  | .declarators outer _ _ => by simp [outer.around_past]
  | .children outer _ => by simp [outer.around_past]

end

mutual

theorem Context.before_past : ∀ context : Context, context.past.before = context.before
  | .frame outer frame => by
    rw [Context.past, Context.before, Context.before, outer.before_past, outer.first_past,
      outer.around_past, frame.before_past]
  | .item row left right => by
    simp [row.before_past, row.container_past, row.first_past, row.anchor_past]

theorem Row.before_past : ∀ row : Row, row.past.before = row.before
  | .body .. => rfl
  | .block outer _ _ => by simp [outer.before_past]
  | .branch outer _ none => by simp [outer.before_past]
  | .branch outer _ (some _) => by simp [outer.before_past, outer.first_past, outer.around_past]
  | .arguments outer _ _ _ _ => by simp [outer.before_past, outer.first_past, outer.around_past]
  | .declarators outer _ _ => by simp [outer.before_past]
  | .children outer _ => by simp [outer.before_past]

end

mutual

theorem Context.beforeStatement_past : ∀ context : Context,
    context.past.beforeStatement = context.beforeStatement
  | .frame outer frame => by
    cases frame <;> simp [Context.beforeStatement, outer.beforeStatement_past, outer.before_past]
  | .item row left right => by simp [Context.beforeStatement, row.beforeStatement_past]

theorem Row.beforeStatement_past : ∀ row : Row,
    row.past.beforeStatement = row.beforeStatement
  | .body .. => rfl
  | .block outer _ _ => by simp [Row.beforeStatement, outer.beforeStatement_past]
  | .branch outer _ _ => by simp [Row.beforeStatement, outer.beforeStatement_past]
  | .arguments outer _ _ _ _ => by simp [Row.beforeStatement, outer.beforeStatement_past]
  | .declarators outer _ _ => by simp [Row.beforeStatement, outer.beforeStatement_past]
  | .children outer _ => by simp [Row.beforeStatement, outer.beforeStatement_past]

end

namespace Context

theorem statementSlot?_past : ∀ context : Context,
    context.past.statementSlot? = context.statementSlot?
  | .item row left right => rfl
  | .frame outer last => by
    cases last with
    | statement span =>
      cases outer with
      | frame outer last => rfl
      | item row left right => simp [statementSlot?, row.container_past]
    | parenInner span => simpa [statementSlot?] using outer.statementSlot?_past
    | _ => simp [statementSlot?]

theorem calleeSlot?_past (context : Context) : context.past.calleeSlot? = context.calleeSlot? := by
  cases context with
  | item row left right => rfl
  | frame outer last =>
    cases last with
    | callCallee span number arguments typeArguments =>
      simpa [calleeSlot?] using outer.statementSlot?_past
    | _ => simp [calleeSlot?]

end Context

/-- What a walk knows after a visit: the part of the program that it has seen, and the identifier
that it is at. -/
def Visit.seen (visit : Visit) : Context × Option Occurrence :=
  (visit.context.past, visit.occurrence?)

namespace Visit

variable {visit other : Visit}

theorem past_of_seen (hseen : other.seen = visit.seen) :
    other.context.past = visit.context.past := congrArg Prod.fst hseen

theorem occurrence?_of_seen (hseen : other.seen = visit.seen) :
    other.occurrence? = visit.occurrence? := congrArg Prod.snd hseen

theorem before_of_seen (hseen : other.seen = visit.seen) :
    other.context.before = visit.context.before := by
  rw [← other.context.before_past, past_of_seen hseen, visit.context.before_past]

theorem reference_of_seen (hseen : other.seen = visit.seen) (occurrence : Occurrence) :
    other.reference occurrence = visit.reference occurrence := by
  rw [reference, reference, before_of_seen hseen]

theorem beforeStatement_of_seen (hseen : other.seen = visit.seen) :
    other.context.beforeStatement = visit.context.beforeStatement := by
  rw [← other.context.beforeStatement_past, past_of_seen hseen,
    visit.context.beforeStatement_past]

theorem calleeSlot?_of_seen (hseen : other.seen = visit.seen) :
    other.context.calleeSlot? = visit.context.calleeSlot? := by
  rw [← other.context.calleeSlot?_past, past_of_seen hseen, visit.context.calleeSlot?_past]

end Visit

namespace Node

theorem seen_congr {context other : Context} (hpast : context.past = other.past) (node : Node) :
    Visit.seen ⟨context, node⟩ = Visit.seen ⟨other, node⟩ := by
  have haround : context.around = other.around := by
    rw [← context.around_past, hpast, other.around_past]
  simp only [Visit.seen, Visit.occurrence?, hpast, haround]

mutual

/-- What is seen of a node does not depend on what comes after the node. -/
theorem map_seen_walk (context other : Context) (hpast : context.past = other.past) :
    ∀ node : Node, (node.walk context).map Visit.seen = (node.walk other).map Visit.seen
  | .ident identifier => by simp [walk, seen_congr hpast]
  | .binder identifier none => by simp [walk, seen_congr hpast]
  | .binder identifier (some typing) => by
    have htyping := map_seen_walk (.frame context (.binderTyping identifier))
      (.frame other (.binderTyping identifier)) (by simp [hpast]) typing
    simp [walk, seen_congr hpast, htyping]
  | .word span name => by simp [walk, seen_congr hpast]
  | .call span number callee arguments none => by
    have hcallee := map_seen_walk (.frame context (.callCallee span number arguments none))
      (.frame other (.callCallee span number arguments none)) (by simp [hpast]) callee
    have harguments := map_seen_walkRow (.arguments context span number callee none)
      (.arguments other span number callee none) (by simp [hpast]) [] arguments
    simp [walk, seen_congr hpast, hcallee, harguments]
  | .call span number callee arguments (some typeArguments) => by
    have hcallee := map_seen_walk
      (.frame context (.callCallee span number arguments (some typeArguments)))
      (.frame other (.callCallee span number arguments (some typeArguments))) (by simp [hpast])
      callee
    have harguments := map_seen_walkRow (.arguments context span number callee (some typeArguments))
      (.arguments other span number callee (some typeArguments)) (by simp [hpast]) [] arguments
    have htypeArguments := map_seen_walk
      (.frame context (.callTypeArguments span number callee arguments))
      (.frame other (.callTypeArguments span number callee arguments)) (by simp [hpast])
      typeArguments
    simp [walk, seen_congr hpast, hcallee, harguments, htypeArguments]
  | .argument spread value => by
    have hvalue := map_seen_walk (.frame context (.argumentValue spread))
      (.frame other (.argumentValue spread)) (by simp [hpast]) value
    simp [walk, seen_congr hpast, hvalue]
  | .member span object property => by
    have hobject := map_seen_walk (.frame context (.memberObject span property))
      (.frame other (.memberObject span property)) (by simp [hpast]) object
    have hproperty := map_seen_walk (.frame context (.memberProperty span object))
      (.frame other (.memberProperty span object)) (by simp [hpast]) property
    simp [walk, seen_congr hpast, hobject, hproperty]
  | .paren span inner => by
    have hinner := map_seen_walk (.frame context (.parenInner span))
      (.frame other (.parenInner span)) (by simp [hpast]) inner
    simp [walk, seen_congr hpast, hinner]
  | .exprStmt span expression => by
    have hexpression := map_seen_walk (.frame context (.statement span))
      (.frame other (.statement span)) (by simp [hpast]) expression
    simp [walk, seen_congr hpast, hexpression]
  | .varDecl span header declarators => by
    have hdeclarators := map_seen_walkRow (.declarators context span header)
      (.declarators other span header) (by simp [hpast]) [] declarators
    simp [walk, seen_congr hpast, hdeclarators]
  | .declarator span definite pattern none => by
    have hpattern := map_seen_walk (.frame context (.declaratorPattern span definite none))
      (.frame other (.declaratorPattern span definite none)) (by simp [hpast]) pattern
    simp [walk, seen_congr hpast, hpattern]
  | .declarator span definite pattern (some init) => by
    have hpattern := map_seen_walk (.frame context (.declaratorPattern span definite (some init)))
      (.frame other (.declaratorPattern span definite (some init))) (by simp [hpast]) pattern
    have hinit := map_seen_walk (.frame context (.declaratorInit span definite pattern))
      (.frame other (.declaratorInit span definite pattern)) (by simp [hpast]) init
    simp [walk, seen_congr hpast, hpattern, hinit]
  | .exportDecl span declaration => by
    have hdeclaration := map_seen_walk (.frame context (.exportDeclaration span))
      (.frame other (.exportDeclaration span)) (by simp [hpast]) declaration
    simp [walk, seen_congr hpast, hdeclaration]
  | .importDecl decl => by simp [walk, seen_congr hpast]
  | .block span kind items => by
    have hitems := map_seen_walkRow (.block context span kind)
      (.block other span kind) (by simp [hpast]) [] items
    simp [walk, seen_congr hpast, hitems]
  | .switchCase span none items => by
    have hitems := map_seen_walkRow (.branch context span none)
      (.branch other span none) (by simp [hpast]) [] items
    simp [walk, seen_congr hpast, hitems]
  | .switchCase span (some test) items => by
    have htest := map_seen_walk (.frame context (.switchTest span items))
      (.frame other (.switchTest span items)) (by simp [hpast]) test
    have hitems := map_seen_walkRow (.branch context span (some test))
      (.branch other span (some test)) (by simp [hpast]) [] items
    simp [walk, seen_congr hpast, htest, hitems]
  | .other form children => by
    have hchildren := map_seen_walkRow (.children context form)
      (.children other form) (by simp [hpast]) [] children
    simp [walk, seen_congr hpast, hchildren]

theorem map_seen_walkRow (row other : Row) (hpast : row.past = other.past) (left : List Node) :
    ∀ nodes : List Node,
      (walkRow row left nodes).map Visit.seen = (walkRow other left nodes).map Visit.seen
  | [] => rfl
  | node :: right => by
    have hnode := map_seen_walk (.item row left right) (.item other left right)
      (by simp [hpast]) node
    simp [walkRow, hnode, map_seen_walkRow row other hpast (left ++ [node]) right]

end

/-- The first nodes of a row are seen as if no others followed. -/
theorem map_seen_walkRow_append (row : Row) (earlier left nodes : List Node) :
    (walkRow row earlier (left ++ nodes)).map Visit.seen =
      (walkRow row earlier left).map Visit.seen
        ++ (walkRow row (earlier ++ left) nodes).map Visit.seen := by
  induction left generalizing earlier with
  | nil => simp [walkRow]
  | cons node left ih =>
    have hnode := map_seen_walk (.item row earlier (left ++ nodes)) (.item row earlier left)
      (by simp) node
    simp [walkRow, hnode, ih]

end Node

/-- Whatever fills the hole of a node, the same is seen before it. -/
theorem Frame.exists_seen (frame : Frame) (outer : Context) :
    ∃ earlier, ∀ node, earlier ++ (node.walk (.frame outer frame)).map Visit.seen <+:
      ((frame.fill node).walk outer).map Visit.seen := by
  cases frame with
  | binderTyping identifier =>
    refine ⟨[(outer.past, some ⟨identifier, false, outer.around.anchor⟩)], fun node => ?_⟩
    simp [Node.walk, Visit.seen]
  | callCallee span number arguments typeArguments =>
    refine ⟨[(outer.past, none)], fun node => ?_⟩
    cases typeArguments <;> simp [Node.walk, Visit.seen]
  | callTypeArguments span number callee arguments =>
    refine ⟨(outer.past, none)
      :: ((callee.walk (.frame outer (.callCallee span number arguments none))).map Visit.seen
        ++ (Node.walkRow (.arguments outer span number callee none) [] arguments).map
          Visit.seen), fun node => ?_⟩
    have hcallee := Node.map_seen_walk (.frame outer (.callCallee span number arguments none))
      (.frame outer (.callCallee span number arguments (some node))) (by simp) callee
    have harguments := Node.map_seen_walkRow (.arguments outer span number callee none)
      (.arguments outer span number callee (some node)) (by simp) [] arguments
    rw [hcallee, harguments]
    simp [Node.walk, Visit.seen]
  | memberProperty span object =>
    refine ⟨(outer.past, none)
      :: (object.walk (.frame outer (.memberObject span (.word .dummy "")))).map Visit.seen,
      fun node => ?_⟩
    have hobject := Node.map_seen_walk (.frame outer (.memberObject span (.word .dummy "")))
      (.frame outer (.memberObject span node)) (by simp) object
    rw [hobject]
    simp [Node.walk, Visit.seen]
  | declaratorPattern span definite init =>
    refine ⟨[(outer.past, none)], fun node => ?_⟩
    cases init <;> simp [Node.walk, Visit.seen]
  | declaratorInit span definite pattern =>
    refine ⟨(outer.past, none)
      :: (pattern.walk (.frame outer (.declaratorPattern span definite none))).map Visit.seen,
      fun node => ?_⟩
    have hpattern := Node.map_seen_walk (.frame outer (.declaratorPattern span definite none))
      (.frame outer (.declaratorPattern span definite (some node))) (by simp) pattern
    rw [hpattern]
    simp [Node.walk, Visit.seen]
  | _ =>
    refine ⟨[(outer.past, none)], fun node => ?_⟩
    simp [Node.walk, Visit.seen]

mutual

/-- Whatever stands at a place, the same is seen before it. -/
theorem Context.exists_seen : ∀ context : Context, ∃ earlier, ∀ node,
    earlier ++ (node.walk context).map Visit.seen <+:
      (context.fill node).walk.map Visit.seen
  | .frame outer frame => by
    obtain ⟨before, hbefore⟩ := outer.exists_seen
    obtain ⟨inside, hinside⟩ := frame.exists_seen outer
    refine ⟨before ++ inside, fun node => ?_⟩
    refine List.IsPrefix.trans ?_ (hbefore (frame.fill node))
    simpa using hinside node
  | .item row left right => by
    obtain ⟨before, hbefore⟩ := row.exists_seen
    refine ⟨before ++ (Node.walkRow row [] left).map Visit.seen, fun node => ?_⟩
    refine List.IsPrefix.trans ?_ (hbefore (left ++ node :: right))
    simp [Node.map_seen_walkRow_append, Node.walkRow]

theorem Row.exists_seen : ∀ row : Row, ∃ earlier, ∀ nodes,
    earlier ++ (Node.walkRow row [] nodes).map Visit.seen <+:
      (row.fill nodes).walk.map Visit.seen
  | .body kind span interpreter => ⟨[], fun nodes => List.prefix_refl _⟩
  | .block outer span kind => by
    obtain ⟨before, hbefore⟩ := outer.exists_seen
    refine ⟨before ++ [(outer.past, none)], fun nodes => ?_⟩
    simpa [Node.walk, Visit.seen] using hbefore (.block span kind nodes)
  | .branch outer span none => by
    obtain ⟨before, hbefore⟩ := outer.exists_seen
    refine ⟨before ++ [(outer.past, none)], fun nodes => ?_⟩
    simpa [Node.walk, Visit.seen] using hbefore (.switchCase span none nodes)
  | .branch outer span (some test) => by
    obtain ⟨before, hbefore⟩ := outer.exists_seen
    refine ⟨before ++ (outer.past, none)
      :: (test.walk (.frame outer (.switchTest span []))).map Visit.seen, fun nodes => ?_⟩
    have htest := Node.map_seen_walk (.frame outer (.switchTest span []))
      (.frame outer (.switchTest span nodes)) (by simp) test
    rw [htest]
    simpa [Node.walk, Visit.seen] using hbefore (.switchCase span (some test) nodes)
  | .arguments outer span number callee none => by
    obtain ⟨before, hbefore⟩ := outer.exists_seen
    refine ⟨before ++ (outer.past, none)
      :: (callee.walk (.frame outer (.callCallee span number [] none))).map Visit.seen,
      fun nodes => ?_⟩
    have hcallee := Node.map_seen_walk (.frame outer (.callCallee span number [] none))
      (.frame outer (.callCallee span number nodes none)) (by simp) callee
    rw [hcallee]
    simpa [Node.walk, Visit.seen] using hbefore (.call span number callee nodes none)
  | .arguments outer span number callee (some typeArguments) => by
    obtain ⟨before, hbefore⟩ := outer.exists_seen
    refine ⟨before ++ (outer.past, none)
      :: (callee.walk (.frame outer (.callCallee span number [] none))).map Visit.seen,
      fun nodes => ?_⟩
    have hcallee := Node.map_seen_walk (.frame outer (.callCallee span number [] none))
      (.frame outer (.callCallee span number nodes (some typeArguments))) (by simp) callee
    rw [hcallee]
    refine List.IsPrefix.trans ?_
      (hbefore (.call span number callee nodes (some typeArguments)))
    simp [Node.walk, Visit.seen]
  | .declarators outer span header => by
    obtain ⟨before, hbefore⟩ := outer.exists_seen
    refine ⟨before ++ [(outer.past, none)], fun nodes => ?_⟩
    simpa [Node.walk, Visit.seen] using hbefore (.varDecl span header nodes)
  | .children outer form => by
    obtain ⟨before, hbefore⟩ := outer.exists_seen
    refine ⟨before ++ [(outer.past, none)], fun nodes => ?_⟩
    simpa [Node.walk, Visit.seen] using hbefore (.other form nodes)

end

/-- What is met later in a walk is met after all that was met before. -/
theorem Visit.Trace.before_prefix {program : Program} {met : List Occurrence}
    {left right : List Visit} {visit later : Visit}
    (htrace : Trace program met (left ++ visit :: right)) (hlater : later ∈ visit :: right) :
    visit.context.before <+: later.context.before := by
  obtain ⟨between, rest, hsplit⟩ := List.append_of_mem hlater
  have hvisit := htrace.visit.2
  rw [hsplit, ← List.append_assoc] at htrace
  rw [hvisit, htrace.visit.2, List.filterMap_append, ← List.append_assoc]
  exact List.prefix_append _ _

/-- A visit with fewer uses of a symbol before it than before an item of a row is made, and sees the
same, whatever stands in the place of the item and of those after it. -/
theorem Row.exists_visit_seen {row : Row} {left right : List Node} {node : Node} {visit : Visit}
    (hvisit : visit ∈ (row.fill (left ++ node :: right)).walk) {symbol : Symbol}
    (hbefore : visit.context.before.countP (Occurrence.names symbol) <
      (Context.item row left right).before.countP (Occurrence.names symbol)) (new : List Node) :
    ∃ kept ∈ (row.fill (left ++ new)).walk, kept.seen = visit.seen := by
  obtain ⟨earlier, hearlier⟩ := row.exists_seen
  obtain ⟨inside, hinside⟩ := node.exists_walk_eq_cons (.item row left right)
  obtain ⟨rest, hold⟩ := hearlier (left ++ node :: right)
  rw [Node.map_seen_walkRow_append, List.nil_append, Node.walkRow, hinside] at hold
  have hnew := hearlier (left ++ new)
  rw [Node.map_seen_walkRow_append, ← List.append_assoc] at hnew
  generalize hpart : earlier ++ (Node.walkRow row [] left).map Visit.seen = part at hnew
  rw [← List.append_assoc, hpart, List.append_assoc, List.cons_append, List.map_cons,
    List.cons_append] at hold
  obtain ⟨visits, others, hwalk, hvisits, hothers⟩ := List.map_eq_append_iff.1 hold.symm
  obtain ⟨item, later, rfl, hitem, _⟩ := List.map_eq_cons_iff.1 hothers
  rw [hwalk] at hvisit
  obtain hvisit | hvisit := List.mem_append.1 hvisit
  · have hmem : visit.seen ∈ part := hvisits ▸ List.mem_map_of_mem hvisit
    have hkept : visit.seen ∈ (row.fill (left ++ new)).walk.map Visit.seen :=
      hnew.subset (List.mem_append_left _ hmem)
    exact List.mem_map.1 hkept
  · -- The visit comes after the item, so that no fewer uses are before it.
    have htrace := (row.fill (left ++ node :: right)).trace_walk
    rw [hwalk] at htrace
    have hprefix := htrace.before_prefix hvisit
    rw [Visit.before_of_seen hitem] at hprefix
    exact absurd hprefix.sublist.countP_le (Nat.not_le_of_lt hbefore)

end MarkerExpansion
