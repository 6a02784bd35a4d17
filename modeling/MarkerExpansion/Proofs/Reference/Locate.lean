import MarkerExpansion.Proofs.Reference.Visit

/-!
Looking for the statement around a reference.

Here the statement is found by a walk that counts what it comes to. A tree has no links to parents,
so the walk carries along what it will need: the slot of the statement that it is about to enter,
which that statement has to take, and the slots of the expression statements that it is in.
-/

namespace MarkerExpansion

/-- What a walk that looks for a reference keeps in mind. -/
structure Locator where
  /-- How many occurrences of the symbol were seen so far. -/
  seen : Nat
  /-- How many statement lists were entered so far. -/
  entered : Nat
  /-- The slot of the item that is entered next, if it can hold a marker call. -/
  slot : Option Slot
  /-- The expression statements around, from the innermost on, with the slots of those that are
  items of a block or of the program. -/
  anchors : List (Option Slot)
  /-- What was found out about the reference. -/
  found : Option (Except Error Slot)

namespace Locator

/-- A walk that looks for a reference. -/
abbrev Walk := StateM Locator Unit

/-- What the slots of the statements around tell about the innermost one. -/
def anchor (locator : Locator) : Anchor :=
  locator.anchors.head?.elim .absent fun slot => slot.elim .loose .at

/-- What is found out about a reference whose identifier is at `span`. -/
def resolve (reference : Reference) (span : Span) (locator : Locator) : Except Error Slot :=
  if span ≠ reference.span then .error ⟨span, .notFound⟩
  else
    match locator.anchors with
    | [] => .error ⟨span, .noStatement⟩
    | none :: _ => .error ⟨span, .outsideBlock⟩
    | some slot :: _ => .ok slot

/-- Leaves the slot to nobody else: what comes next is inside the item that it was meant for. -/
def dropSlot : Walk := modify fun locator => { locator with slot := none }

/-- Comes to an identifier. After the one that is looked for none is counted any more. -/
def identifier (reference : Reference) (identifier : Ident) : Walk :=
  modify fun locator =>
    if locator.found.isSome ∨ identifier.symbol ≠ reference.symbol then
      { locator with slot := none }
    else if locator.seen = reference.ordinal then
      { locator with
        slot := none
        seen := locator.seen + 1
        found := some (locator.resolve reference identifier.span) }
    else { locator with slot := none, seen := locator.seen + 1 }

/-- Comes to an expression statement, which takes its slot and is left again in the end. -/
def statement (walk : Walk) : Walk := do
  modify fun locator => { locator with slot := none, anchors := locator.slot :: locator.anchors }
  walk
  modify fun locator => { locator with anchors := locator.anchors.tail }

/-- Enters a statement list, under the next number. -/
def enter (walk : Nat → Walk) : Walk := do
  let locator ← get
  set { locator with slot := none, entered := locator.entered + 1 }
  walk locator.entered

/-- Walks through an item of a list, unless all is found out. The slot is gone afterwards. -/
def item (slot : Option Slot) (walk : Walk) : Walk := do
  if (← get).found.isSome then return
  modify fun locator => { locator with slot }
  walk
  dropSlot

end Locator

namespace Node

open Locator

mutual

/-- Walks through a node and looks for `reference`. -/
def locate (reference : Reference) : Node → Walk
  | .ident identifier => Locator.identifier reference identifier
  | .binder identifier none => Locator.identifier reference identifier
  | .binder identifier (some typing) => do
    Locator.identifier reference identifier
    typing.locate reference
  | .word _ _ => dropSlot
  | .call _ _ callee arguments none => do
    dropSlot
    callee.locate reference
    locateEach reference arguments
  | .call _ _ callee arguments (some typeArguments) => do
    dropSlot
    callee.locate reference
    locateEach reference arguments
    typeArguments.locate reference
  | .argument _ value => do
    dropSlot
    value.locate reference
  | .member _ object property => do
    dropSlot
    object.locate reference
    property.locate reference
  | .paren _ inner => do
    dropSlot
    inner.locate reference
  | .exprStmt _ expression => statement (expression.locate reference)
  | .varDecl _ _ declarators => do
    dropSlot
    locateEach reference declarators
  | .declarator _ _ pattern none => do
    dropSlot
    pattern.locate reference
  | .declarator _ _ pattern (some init) => do
    dropSlot
    pattern.locate reference
    init.locate reference
  | .exportDecl _ declaration => do
    dropSlot
    declaration.locate reference
  | .importDecl _ => dropSlot
  | .block _ _ items => enter fun number => locateItems reference (some number) 0 items
  | .switchCase _ none items => enter fun _ => locateItems reference none 0 items
  | .switchCase _ (some test) items => do
    dropSlot
    test.locate reference
    enter fun _ => locateItems reference none 0 items
  | .other _ children => do
    dropSlot
    locateEach reference children

/-- Walks through the children of a node. -/
def locateEach (reference : Reference) : List Node → Walk
  | [] => pure ()
  | node :: nodes => do
    node.locate reference
    locateEach reference nodes

/-- Walks through the items of a statement list from `index` on. Only a list that can hold marker
calls has slots, under its number. -/
def locateItems (reference : Reference) (container : Option Nat) (index : Nat) :
    List Node → Walk
  | [] => pure ()
  | node :: nodes => do
    item (container.map fun number => ⟨number, index⟩) (node.locate reference)
    locateItems reference container (index + 1) nodes

end

end Node

/-- The slot of the expression statement around a reference, looked for by a walk. -/
def Program.locate (program : Program) (reference : Reference) : Except Error Slot :=
  let walk := Locator.enter fun number =>
    Node.locateItems reference (some number) 0 program.body
  (walk.run ⟨0, 0, none, [], none⟩).2.found.getD (.error ⟨reference.span, .notFound⟩)

/-- What is found out about a reference that stands for an occurrence. -/
def Occurrence.locate (reference : Reference) (occurrence : Occurrence) : Except Error Slot :=
  if occurrence.ident.span ≠ reference.span then .error ⟨occurrence.ident.span, .notFound⟩
  else occurrence.anchor.resolve occurrence.ident.span

theorem Locator.resolve_eq (reference : Reference) (identifier : Ident) (isCallee : Bool)
    (locator : Locator) :
    locator.resolve reference identifier.span =
      Occurrence.locate reference ⟨identifier, isCallee, locator.anchor⟩ := by
  obtain ⟨seen, entered, slot, anchors, found⟩ := locator
  unfold resolve Occurrence.locate
  split
  · rfl
  · match anchors with
    | [] => rfl
    | none :: _ => rfl
    | some _ :: _ => rfl

/-- The walk has not found its reference yet and is about to enter a part of the program: `first` is
the number of the first statement list there, `slot` and `anchor` are what is around the part. -/
structure Locator.Before (slot : Option Slot) (anchor : Anchor) (first : Nat) (locator : Locator) :
    Prop where
  entered : locator.entered = first
  slot : locator.slot = slot
  anchor : locator.anchor = anchor
  found : locator.found = none

/-- The walk after a part of the program in which it counted `more` occurrences and did not find its
reference. It leaves no slot and no statement behind. -/
def Locator.past (more entered : Nat) (locator : Locator) : Locator :=
  { locator with seen := locator.seen + more, entered, slot := none }

theorem Locator.seen_past (more entered : Nat) (locator : Locator) :
    (locator.past more entered).seen = locator.seen + more := rfl

theorem Locator.Before.past {slot : Option Slot} {anchor : Anchor} {first : Nat}
    {locator : Locator} (hbefore : locator.Before slot anchor first) (more entered : Nat) :
    (locator.past more entered).Before none anchor entered :=
  ⟨rfl, rfl, hbefore.anchor, hbefore.found⟩

/-- What a walk does in a part of a program with `count` statement lists and with `occurrences`. -/
structure Locator.Walks (reference : Reference) (walk : Walk) (slot : Option Slot)
    (anchor : Anchor) (first count : Nat) (occurrences : List Occurrence) : Prop where
  /-- What was found out stays. -/
  done : ∀ locator : Locator, locator.found.isSome → (walk.run locator).2.found = locator.found
  /-- A part without the reference is only counted. -/
  passes : ∀ locator : Locator, locator.Before slot anchor first →
    locator.seen + occurrences.countP (Occurrence.names reference.symbol) ≤ reference.ordinal →
    (walk.run locator).2 =
      locator.past (occurrences.countP (Occurrence.names reference.symbol)) (first + count)
  /-- In the part that has it the reference is found. -/
  finds : ∀ (locator : Locator) (occurrence : Occurrence), locator.Before slot anchor first →
    locator.seen ≤ reference.ordinal →
    (occurrences.filter (Occurrence.names reference.symbol))[reference.ordinal - locator.seen]? =
      some occurrence →
    (walk.run locator).2.found = some (occurrence.locate reference)

namespace Locator.Walks

variable {reference : Reference} {slot : Option Slot} {anchor : Anchor} {first : Nat}

theorem nothing : Walks reference (pure ()) none anchor first 0 [] where
  done _ _ := rfl
  passes locator hbefore _ := by
    obtain ⟨seen, entered, slot, anchors, found⟩ := locator
    obtain ⟨rfl, rfl, _, _⟩ := hbefore
    rfl
  finds _ _ _ _ hfound := by simp at hfound

theorem dropSlot : Walks reference Locator.dropSlot slot anchor first 0 [] where
  done _ _ := rfl
  passes locator hbefore _ := by
    obtain ⟨seen, entered, slot, anchors, found⟩ := locator
    obtain ⟨rfl, _, _, _⟩ := hbefore
    rfl
  finds _ _ _ _ hfound := by simp at hfound

theorem run_bind (walk next : Walk) (locator : Locator) :
    (do walk; next : Walk).run locator = next.run (walk.run locator).2 := rfl

/-- The second of two parts has the numbers that the first one leaves. The reference can be in only
one of them. -/
theorem seq {walk next : Walk} {count countNext : Nat} {left right : List Occurrence}
    (hwalk : Walks reference walk slot anchor first count left)
    (hnext : Walks reference next none anchor (first + count) countNext right) :
    Walks reference (do walk; next) slot anchor first (count + countNext) (left ++ right) where
  done locator hfound := by
    have hfirst := hwalk.done locator hfound
    rw [run_bind, hnext.done _ (by rw [hfirst]; exact hfound), hfirst]
  passes locator hbefore hpast := by
    rw [List.countP_append] at hpast ⊢
    rw [run_bind, hwalk.passes locator hbefore (by omega),
      hnext.passes _ (hbefore.past _ _) (by rw [seen_past]; omega)]
    simp only [past, Nat.add_assoc]
  finds locator occurrence hbefore hseen hfound := by
    rw [List.filter_append] at hfound
    rw [run_bind]
    by_cases hleft : reference.ordinal - locator.seen <
        (left.filter (Occurrence.names reference.symbol)).length
    · rw [List.getElem?_append_left hleft] at hfound
      have hfirst := hwalk.finds locator occurrence hbefore hseen hfound
      rw [hnext.done _ (by rw [hfirst]; rfl), hfirst]
    · rw [List.getElem?_append_right (by omega)] at hfound
      rw [← List.countP_eq_length_filter] at hleft hfound
      rw [hwalk.passes locator hbefore (by omega)]
      refine hnext.finds _ occurrence (hbefore.past _ _) ?_ ?_
      · rw [seen_past]
        omega
      · rwa [Nat.sub_sub] at hfound

theorem inside {walk : Walk} {count : Nat} {occurrences : List Occurrence}
    (hwalk : Walks reference walk none anchor first count occurrences) :
    Walks reference (do Locator.dropSlot; walk) slot anchor first count occurrences := by
  simpa using dropSlot.seq hwalk

theorem identifier (identifier : Ident) (isCallee : Bool) :
    Walks reference (Locator.identifier reference identifier) slot anchor first 0
      [⟨identifier, isCallee, anchor⟩] where
  done locator hfound := by
    change (if locator.found.isSome ∨ _ then _ else _ : Locator).found = _
    rw [if_pos (.inl hfound)]
  passes locator hbefore hpast := by
    obtain ⟨seen, entered, slot, anchors, found⟩ := locator
    obtain ⟨rfl, _, _, rfl⟩ := hbefore
    change (if _ then _ else _) = _
    by_cases hsymbol : identifier.symbol = reference.symbol
    · have hcount : [Occurrence.mk identifier isCallee anchor].countP
          (Occurrence.names reference.symbol) = 1 := by
        simp [Occurrence.names, hsymbol]
      rw [hcount] at hpast ⊢
      rw [if_neg (by simp [hsymbol]), if_neg (by dsimp only at hpast ⊢; omega)]
      rfl
    · simp [Occurrence.names, hsymbol, past]
  finds locator occurrence hbefore hseen hfound := by
    have hfilter := List.mem_of_getElem? hfound
    rw [List.mem_filter, List.mem_singleton] at hfilter
    obtain ⟨rfl, hnames⟩ := hfilter
    have hsymbol : identifier.symbol = reference.symbol := of_decide_eq_true hnames
    have hordinal : locator.seen = reference.ordinal := by
      rw [List.filter_cons_of_pos hnames] at hfound
      have hlt := (List.getElem?_eq_some_iff.1 hfound).1
      simp only [List.filter_nil, List.length_singleton] at hlt
      omega
    change (if _ then _ else _ : Locator).found = _
    rw [if_neg (by simp [hbefore.found, hsymbol]), if_pos hordinal]
    dsimp only
    rw [resolve_eq reference identifier isCallee locator, hbefore.anchor]

theorem run_statement (walk : Walk) (locator : Locator) :
    ((Locator.statement walk).run locator).2 =
      let left := (walk.run
        { locator with slot := none, anchors := locator.slot :: locator.anchors }).2
      { left with anchors := left.anchors.tail } := rfl

theorem before_statement {locator : Locator} (hbefore : locator.Before slot anchor first) :
    Before none (slot.elim .loose .at) first
      { locator with slot := none, anchors := locator.slot :: locator.anchors } := by
  refine ⟨hbefore.entered, rfl, ?_, hbefore.found⟩
  rw [← hbefore.slot]
  rfl

/-- The expression of a statement knows the slot that the statement took. -/
theorem statement {walk : Walk} {count : Nat} {occurrences : List Occurrence}
    (hwalk : Walks reference walk none (slot.elim .loose .at) first count occurrences) :
    Walks reference (Locator.statement walk) slot anchor first count occurrences where
  done locator hfound := by
    rw [run_statement]
    exact hwalk.done _ hfound
  passes locator hbefore hpast := by
    rw [run_statement, hwalk.passes _ (before_statement hbefore) hpast]
    rfl
  finds locator occurrence hbefore hseen hfound := by
    rw [run_statement]
    exact hwalk.finds _ occurrence (before_statement hbefore) hseen hfound

theorem run_enter (walk : Nat → Walk) (locator : Locator) :
    (Locator.enter walk).run locator =
      (walk locator.entered).run
        { locator with slot := none, entered := locator.entered + 1 } := rfl

/-- A statement list has the number of those entered before it. -/
theorem enter {walk : Nat → Walk} {count : Nat} {occurrences : Nat → List Occurrence}
    (hwalk : ∀ number,
      Walks reference (walk number) none anchor (number + 1) count (occurrences number)) :
    Walks reference (Locator.enter walk) slot anchor first (count + 1) (occurrences first) where
  done locator hfound := by
    rw [run_enter]
    exact (hwalk _).done _ hfound
  passes locator hbefore hpast := by
    obtain ⟨rfl, _, hanchor, hnone⟩ := hbefore
    have hinside : Before none anchor (locator.entered + 1)
        { locator with slot := none, entered := locator.entered + 1 } := ⟨rfl, rfl, hanchor, hnone⟩
    rw [run_enter, (hwalk _).passes _ hinside hpast, Nat.add_assoc, Nat.add_comm 1]
    rfl
  finds locator occurrence hbefore hseen hfound := by
    obtain ⟨rfl, _, hanchor, hnone⟩ := hbefore
    rw [run_enter]
    exact (hwalk _).finds _ occurrence ⟨rfl, rfl, hanchor, hnone⟩ hseen hfound

theorem run_item_of_found {walk : Walk} {locator : Locator} (hfound : locator.found.isSome) :
    (Locator.item slot walk).run locator = pure ((), locator) := by
  rw [Locator.item, StateT.run_bind, StateT.run_get, pure_bind, if_pos hfound]
  rfl

theorem run_item {walk : Walk} {locator : Locator} (hfound : locator.found = none) :
    (Locator.item slot walk).run locator =
      Locator.dropSlot.run (walk.run { locator with slot }).2 := by
  rw [Locator.item, StateT.run_bind, StateT.run_get, pure_bind, if_neg (by simp [hfound])]
  rfl

/-- An item of a statement list is walked through with its slot. -/
theorem item {walk : Walk} {count : Nat} {occurrences : List Occurrence}
    (hwalk : Walks reference walk slot anchor first count occurrences) :
    Walks reference (Locator.item slot walk) none anchor first count occurrences where
  done locator hfound := by
    rw [run_item_of_found hfound]
    rfl
  passes locator hbefore hpast := by
    have hinside : Before slot anchor first { locator with slot } :=
      ⟨hbefore.entered, rfl, hbefore.anchor, hbefore.found⟩
    rw [run_item hbefore.found, hwalk.passes _ hinside hpast]
    rfl
  finds locator occurrence hbefore hseen hfound := by
    rw [run_item hbefore.found]
    exact hwalk.finds _ occurrence ⟨hbefore.entered, rfl, hbefore.anchor, hbefore.found⟩ hseen
      hfound

end Locator.Walks

namespace Node

open Locator (Walks)

mutual

/-- The walk through a node finds the reference that stands for one of the occurrences in it. -/
theorem walks_locate (reference : Reference) : ∀ (node : Node) (first : Nat)
    (around : Surroundings),
    Walks reference (node.locate reference) around.slot around.anchor first node.listCount
      (node.occurrences first around)
  | .ident identifier, first, around => by
    simpa [locate, occurrences, listCount, lists] using
      Walks.identifier identifier around.isCallee
  | .binder identifier none, first, around => by
    simpa [locate, occurrences, listCount, lists] using Walks.identifier identifier false
  | .binder identifier (some typing), first, around => by
    simpa [locate, occurrences, listCount, lists, Surroundings.inside] using
      (Walks.identifier identifier false).seq (walks_locate reference typing first around.inside)
  | .word span name, first, around => by
    simpa [locate, occurrences, listCount, lists, Surroundings.inside] using Walks.dropSlot
  | .call span number callee arguments none, first, around => by
    simpa [locate, occurrences, listCount, listCountOf, lists, Surroundings.callee] using
      ((walks_locate reference callee first around.callee).seq
        (walks_locateEach reference arguments 0 _ around.anchor)).inside
  | .call span number callee arguments (some typeArguments), first, around => by
    simpa [locate, occurrences, listCount, listCountOf, lists, Surroundings.callee,
      Nat.add_assoc] using
      ((walks_locate reference callee first around.callee).seq
        ((walks_locateEach reference arguments 0 _ around.anchor).seq
          (walks_locate reference typeArguments _ around.inside))).inside
  | .argument spread value, first, around => by
    simpa [locate, occurrences, listCount, lists, Surroundings.inside] using
      (walks_locate reference value first around.inside).inside
  | .member span object property, first, around => by
    simpa [locate, occurrences, listCount, lists, Surroundings.inside] using
      ((walks_locate reference object first around.inside).seq
        (walks_locate reference property _ around.inside)).inside
  | .paren span inner, first, around => by
    simpa [locate, occurrences, listCount, lists, Surroundings.inside] using
      (walks_locate reference inner first around.inside).inside
  | .exprStmt span expression, first, around => by
    simpa [locate, occurrences, listCount, lists, Surroundings.inside] using
      (walks_locate reference expression first around.statement).statement
  | .varDecl span header declarators, first, around => by
    simpa [locate, occurrences, listCount, listCountOf, lists, Surroundings.inside] using
      (walks_locateEach reference declarators 0 first around.anchor).inside
  | .declarator span definite pattern none, first, around => by
    simpa [locate, occurrences, listCount, lists, Surroundings.inside] using
      (walks_locate reference pattern first around.inside).inside
  | .declarator span definite pattern (some init), first, around => by
    simpa [locate, occurrences, listCount, lists, Surroundings.inside] using
      ((walks_locate reference pattern first around.inside).seq
        (walks_locate reference init _ around.inside)).inside
  | .exportDecl span declaration, first, around => by
    simpa [locate, occurrences, listCount, lists, Surroundings.inside] using
      (walks_locate reference declaration first around.inside).inside
  | .importDecl decl, first, around => by
    simpa [locate, occurrences, listCount, lists, Surroundings.inside] using Walks.dropSlot
  | .block span kind items, first, around => by
    simpa [locate, occurrences, listCount, listCountOf, lists, Surroundings.inside] using
      Walks.enter fun number =>
        walks_locateItems reference items (some number) 0 (number + 1) around.anchor
  | .switchCase span none items, first, around => by
    simpa [locate, occurrences, listCount, listCountOf, lists, Surroundings.inside] using
      Walks.enter fun number =>
        walks_locateItems reference items none 0 (number + 1) around.anchor
  | .switchCase span (some test) items, first, around => by
    simpa [locate, occurrences, listCount, listCountOf, lists, Surroundings.inside] using
      ((walks_locate reference test first around.inside).seq
        (Walks.enter fun number =>
          walks_locateItems reference items none 0 (number + 1) around.anchor)).inside
  | .other form children, first, around => by
    simpa [locate, occurrences, listCount, listCountOf, lists, Surroundings.inside] using
      (walks_locateEach reference children 0 first around.anchor).inside

theorem walks_locateEach (reference : Reference) : ∀ (nodes : List Node) (index first : Nat)
    (anchor : Anchor),
    Walks reference (locateEach reference nodes) none anchor first (listCountOf nodes)
      (occurrencesOf none index first anchor nodes)
  | [], index, first, anchor => by
    simpa [locateEach, occurrencesOf] using Walks.nothing
  | node :: nodes, index, first, anchor => by
    simpa [locateEach, occurrencesOf] using
      (walks_locate reference node first ⟨none, anchor, false⟩).seq
        (walks_locateEach reference nodes (index + 1) (first + node.listCount) anchor)

theorem walks_locateItems (reference : Reference) : ∀ (nodes : List Node)
    (container : Option Nat) (index first : Nat) (anchor : Anchor),
    Walks reference (locateItems reference container index nodes) none anchor first
      (listCountOf nodes) (occurrencesOf container index first anchor nodes)
  | [], container, index, first, anchor => by
    simpa [locateItems, occurrencesOf] using Walks.nothing
  | node :: nodes, container, index, first, anchor => by
    simpa [locateItems, occurrencesOf] using
      (walks_locate reference node first
        ⟨container.map fun number => ⟨number, index⟩, anchor, false⟩).item.seq
        (walks_locateItems reference nodes container (index + 1) (first + node.listCount) anchor)

end

end Node

namespace Program

theorem enclosingStatement_eq_elim (program : Program) (reference : Reference) :
    program.enclosingStatement reference =
      (program.occurrencesOf reference.symbol)[reference.ordinal]?.elim
        (.error ⟨reference.span, .notFound⟩) (Occurrence.locate reference) := by
  unfold enclosingStatement
  cases (program.occurrencesOf reference.symbol)[reference.ordinal]? with
  | none => rfl
  | some occurrence =>
    simp only [Option.elim_some, Occurrence.locate]
    split
    · rfl
    · cases occurrence.anchor <;> rfl

/-- What the walk finds is the statement around the reference. -/
theorem locate_eq_enclosingStatement (program : Program) (reference : Reference) :
    program.locate reference = program.enclosingStatement reference := by
  have hwalks : Locator.Walks reference _ none .absent 0 _ program.occurrences :=
    Locator.Walks.enter fun number =>
      Node.walks_locateItems reference program.body (some number) 0 (number + 1) .absent
  have hbefore : Locator.Before none .absent 0 ⟨0, 0, none, [], none⟩ := ⟨rfl, rfl, rfl, rfl⟩
  rw [enclosingStatement_eq_elim, locate]
  cases hsite : (program.occurrencesOf reference.symbol)[reference.ordinal]? with
  | none =>
    have hpast : 0 + program.occurrences.countP (Occurrence.names reference.symbol) ≤
        reference.ordinal := by
      rw [Nat.zero_add, List.countP_eq_length_filter]
      exact List.getElem?_eq_none_iff.1 hsite
    rw [hwalks.passes _ hbefore hpast]
    rfl
  | some occurrence =>
    rw [hwalks.finds _ occurrence hbefore (Nat.zero_le _) hsite]
    rfl

end Program

end MarkerExpansion
