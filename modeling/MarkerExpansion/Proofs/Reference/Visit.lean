import MarkerExpansion.Proofs.Reference.Site

/-!
The visit that a reference stands for.

A reference numbers the occurrences of its symbol, so it stands for one visit of a walk through the
program. The place of that visit tells what the identifier is used for.
-/

namespace MarkerExpansion

namespace Visit

/-- Whether a visit is to an identifier with `symbol`. -/
def names (symbol : Symbol) (visit : Visit) : Bool :=
  visit.occurrence?.any (Occurrence.names symbol)

theorem countP_filterMap_occurrence? (symbol : Symbol) (visits : List Visit) :
    (visits.filterMap occurrence?).countP (Occurrence.names symbol) =
      visits.countP (names symbol) := by
  rw [List.countP_filterMap]
  congr 1
  funext visit
  rw [names]
  cases visit.occurrence? <;> rfl

theorem filter_filterMap_occurrence? (symbol : Symbol) (visits : List Visit) :
    (visits.filterMap occurrence?).filter (Occurrence.names symbol) =
      (visits.filter (names symbol)).filterMap occurrence? := by
  induction visits with
  | nil => rfl
  | cons visit visits ih =>
    cases hvisit : visit.occurrence? with
    | none =>
      have hnames : names symbol visit = false := by rw [names, hvisit]; rfl
      rw [List.filterMap_cons_none hvisit, List.filter_cons_of_neg (by simp [hnames]), ih]
    | some occurrence =>
      have hnames : names symbol visit = occurrence.names symbol := by rw [names, hvisit]; rfl
      rw [List.filterMap_cons_some hvisit, List.filter_cons, List.filter_cons, hnames, ih]
      split
      · rw [List.filterMap_cons_some hvisit]
      · rfl

/-- Numbering the visits to a symbol is numbering its occurrences. -/
theorem getElem?_filterMap_occurrence? (symbol : Symbol) (visits : List Visit) (ordinal : Nat) :
    ((visits.filterMap occurrence?).filter (Occurrence.names symbol))[ordinal]? =
      (visits.filter (names symbol))[ordinal]?.bind occurrence? := by
  rw [filter_filterMap_occurrence?]
  have hnames : ∀ visit ∈ visits.filter (names symbol), names symbol visit :=
    fun visit hvisit => (List.mem_filter.1 hvisit).2
  generalize visits.filter (names symbol) = visits at hnames
  induction visits generalizing ordinal with
  | nil => simp
  | cons visit visits ih =>
    have hvisit := hnames visit (List.mem_cons_self ..)
    have hvisits := fun ordinal => ih ordinal fun other hother =>
      hnames other (List.mem_cons_of_mem _ hother)
    cases hoccurrence : visit.occurrence? with
    | none =>
      rw [names, hoccurrence] at hvisit
      cases hvisit
    | some occurrence =>
      rw [List.filterMap_cons_some hoccurrence]
      cases ordinal with
      | zero => exact hoccurrence.symm
      | succ ordinal => exact hvisits ordinal

end Visit

namespace Program

/-- The visit that a reference stands for. -/
def visitOf? (program : Program) (reference : Reference) : Option Visit :=
  (program.walk.filter (Visit.names reference.symbol))[reference.ordinal]?

theorem getElem?_occurrencesOf_eq_visitOf? (program : Program) (reference : Reference) :
    (program.occurrencesOf reference.symbol)[reference.ordinal]? =
      (program.visitOf? reference).bind Visit.occurrence? := by
  rw [visitOf?, ← Visit.getElem?_filterMap_occurrence?, filterMap_walk]
  rfl

/-- A visit to a symbol is the one whose number is that of the occurrences met before. -/
theorem visitOf?_of_mem {program : Program} {visit : Visit} (hvisit : visit ∈ program.walk)
    {reference : Reference} (hnames : visit.names reference.symbol)
    (hordinal : reference.ordinal =
      visit.context.before.countP (Occurrence.names reference.symbol)) :
    program.visitOf? reference = some visit := by
  obtain ⟨earlier, later, hwalk⟩ := List.append_of_mem hvisit
  have hbefore := (Visit.Trace.visit (hwalk ▸ program.trace_walk)).2
  rw [List.nil_append] at hbefore
  rw [visitOf?, hordinal, hbefore, Visit.countP_filterMap_occurrence?, hwalk,
    List.filter_append, List.filter_cons_of_pos hnames, List.countP_eq_length_filter,
    List.getElem?_append_right (Nat.le_refl _), Nat.sub_self]
  rfl

end Program

/-- The slot of an expression statement around an identifier at `span`. -/
def Anchor.resolve (span : Span) : Anchor → Except Error Slot
  | .absent => .error ⟨span, .noStatement⟩
  | .loose => .error ⟨span, .outsideBlock⟩
  | .at slot => .ok slot

namespace Visit

/-- The reference to what a visit notes down. -/
def reference (visit : Visit) (occurrence : Occurrence) : Reference where
  symbol := occurrence.ident.symbol
  ordinal := visit.context.before.countP (Occurrence.names occurrence.ident.symbol)
  span := occurrence.ident.span
  kind := occurrence.kind

variable {program : Program} {visit : Visit} {occurrence : Occurrence}

theorem visitOf?_reference (hvisit : visit ∈ program.walk)
    (hoccurrence : visit.occurrence? = some occurrence) :
    program.visitOf? (visit.reference occurrence) = some visit := by
  refine Program.visitOf?_of_mem hvisit ?_ rfl
  rw [names, hoccurrence]
  exact decide_eq_true rfl

theorem getElem?_occurrencesOf_reference (hvisit : visit ∈ program.walk)
    (hoccurrence : visit.occurrence? = some occurrence) :
    (program.occurrencesOf occurrence.ident.symbol)[(visit.reference occurrence).ordinal]? =
      some occurrence := by
  have hsite := program.getElem?_occurrencesOf_eq_visitOf? (visit.reference occurrence)
  rw [visitOf?_reference hvisit hoccurrence, Option.bind_some, hoccurrence] at hsite
  exact hsite

theorem reference_mem_uses (hvisit : visit ∈ program.walk)
    (hoccurrence : visit.occurrence? = some occurrence) :
    visit.reference occurrence ∈ program.uses occurrence.ident.symbol := by
  have hsite := getElem?_occurrencesOf_reference hvisit hoccurrence
  refine List.mem_iff_getElem?.2 ⟨(visit.reference occurrence).ordinal, ?_⟩
  rw [Program.uses, List.getElem?_map, List.getElem?_zipIdx, hsite, Option.map_some,
    Option.map_some, Nat.zero_add]
  rfl

/-- The place of an identifier decides which statement is around its reference. -/
theorem enclosingStatement_reference (hvisit : visit ∈ program.walk)
    (hoccurrence : visit.occurrence? = some occurrence) :
    program.enclosingStatement (visit.reference occurrence) =
      occurrence.anchor.resolve occurrence.ident.span := by
  have hsite := getElem?_occurrencesOf_reference hvisit hoccurrence
  unfold Program.enclosingStatement
  rw [show (visit.reference occurrence).symbol = occurrence.ident.symbol from rfl, hsite]
  simp only [reference, ne_eq, not_true_eq_false, if_false]
  cases occurrence.anchor <;> rfl

theorem anchor_of_occurrence? (hoccurrence : visit.occurrence? = some occurrence) :
    occurrence.anchor = visit.context.around.anchor := by
  obtain ⟨context, node⟩ := visit
  cases node with
  | ident identifier =>
    cases hoccurrence
    rfl
  | binder identifier typing =>
    cases hoccurrence
    rfl
  | _ => cases hoccurrence

end Visit

private theorem exists_of_getElem?_filter {α : Type} {keep : α → Bool} {values : List α}
    {index : Nat} {value : α} (hvalue : (values.filter keep)[index]? = some value) :
    ∃ earlier later, values = earlier ++ value :: later ∧ keep value ∧
      earlier.countP keep = index := by
  induction values generalizing index with
  | nil => simp at hvalue
  | cons first values ih =>
    by_cases hkeep : keep first
    · rw [List.filter_cons_of_pos hkeep] at hvalue
      cases index with
      | zero =>
        cases hvalue
        exact ⟨[], values, rfl, hkeep, rfl⟩
      | succ index =>
        obtain ⟨earlier, later, rfl, hvalue, hcount⟩ := ih hvalue
        exact ⟨first :: earlier, later, rfl, hvalue, by simp [hkeep, hcount]⟩
    · rw [List.filter_cons_of_neg hkeep] at hvalue
      obtain ⟨earlier, later, rfl, hvalue, hcount⟩ := ih hvalue
      exact ⟨first :: earlier, later, rfl, hvalue, by simp [hkeep, hcount]⟩

/-- Every use of a symbol is the reference to what some visit notes down. -/
theorem Program.exists_visit_of_mem_uses {program : Program} {symbol : Symbol}
    {reference : Reference} (huse : reference ∈ program.uses symbol) :
    ∃ visit occurrence, visit ∈ program.walk ∧ visit.occurrence? = some occurrence ∧
      occurrence.ident.symbol = symbol ∧ visit.reference occurrence = reference := by
  obtain ⟨⟨occurrence, ordinal⟩, hmem, rfl⟩ := List.mem_map.1 huse
  have hsite : (program.occurrencesOf symbol)[ordinal]? = some occurrence :=
    List.mem_zipIdx_iff_getElem?.1 hmem
  have hsymbol : occurrence.ident.symbol = symbol := by
    simpa using (List.mem_filter.1 (List.mem_of_getElem? hsite)).2
  have hvisit := program.getElem?_occurrencesOf_eq_visitOf?
    ⟨symbol, ordinal, occurrence.ident.span, occurrence.kind⟩
  rw [hsite] at hvisit
  obtain ⟨visit, hvisit, hoccurrence⟩ := Option.bind_eq_some_iff.1 hvisit.symm
  obtain ⟨earlier, later, hwalk, hnames, hcount⟩ := exists_of_getElem?_filter hvisit
  have hbefore := (Visit.Trace.visit (hwalk ▸ program.trace_walk)).2
  rw [List.nil_append] at hbefore
  refine ⟨visit, occurrence, by simp [hwalk], hoccurrence, hsymbol, ?_⟩
  rw [Visit.reference, hbefore, Visit.countP_filterMap_occurrence?, hsymbol, hcount]

namespace Context

/-- The slot of the expression statement of which the node at a place is the expression,
parentheses aside, if that statement is an item of a block or of the program. -/
def statementSlot? : Context → Option Slot
  | .frame (.item row left _) (.statement _) =>
    row.container.map fun number => ⟨number, left.length⟩
  | .frame outer (.parenInner _) => outer.statementSlot?
  | _ => none

/-- The slot of the expression statement of which the expression, parentheses aside, is the call of
the node at a place. -/
def calleeSlot? : Context → Option Slot
  | .frame outer (.callCallee ..) => outer.statementSlot?
  | _ => none

theorem anchor_of_statementSlot? {slot : Slot} : ∀ {context : Context},
    context.statementSlot? = some slot → context.around.anchor = .at slot
  | .item row left right, h => by cases h
  | .frame outer last, h => by
    cases last with
    | statement span =>
      cases outer with
      | frame outer last => cases h
      | item row left right =>
        rw [statementSlot?] at h
        simp [h, Surroundings.statement]
    | parenInner span =>
      rw [statementSlot?] at h
      have houter := anchor_of_statementSlot? h
      exact houter
    | _ => simp [statementSlot?] at h

theorem anchor_of_calleeSlot? {context : Context} {slot : Slot}
    (hslot : context.calleeSlot? = some slot) : context.around.anchor = .at slot := by
  unfold calleeSlot? at hslot
  split at hslot
  · next outer span number arguments typeArguments =>
    have houter := anchor_of_statementSlot? hslot
    exact houter
  · cases hslot

end Context

mutual

/-- The occurrences that a walk meets before it comes to the innermost expression statement around a
place. -/
def Context.beforeStatement : Context → List Occurrence
  | .frame outer (.statement _) => outer.before
  | .frame outer _ => outer.beforeStatement
  | .item row _ _ => row.beforeStatement

def Row.beforeStatement : Row → List Occurrence
  | .body .. => []
  | .block outer .. => outer.beforeStatement
  | .branch outer .. => outer.beforeStatement
  | .arguments outer .. => outer.beforeStatement
  | .declarators outer .. => outer.beforeStatement
  | .children outer .. => outer.beforeStatement

end

namespace Context

/-- No identifier stands between the beginning of a statement and its expression. -/
theorem beforeStatement_of_statementSlot? {slot : Slot} : ∀ {context : Context},
    context.statementSlot? = some slot → context.beforeStatement = context.before
  | .item row left right, h => by cases h
  | .frame outer last, h => by
    cases last with
    | statement span => simp [beforeStatement]
    | parenInner span =>
      rw [statementSlot?] at h
      simpa [beforeStatement] using beforeStatement_of_statementSlot? h
    | _ => simp [statementSlot?] at h

/-- The callee of a call is the first identifier in it. -/
theorem beforeStatement_of_calleeSlot? {context : Context} {slot : Slot}
    (hslot : context.calleeSlot? = some slot) : context.beforeStatement = context.before := by
  unfold calleeSlot? at hslot
  split at hslot
  · simpa [beforeStatement] using beforeStatement_of_statementSlot? hslot
  · cases hslot

end Context

namespace Program

/-- The slot of the expression statement that is a call of the identifier at a reference,
parentheses aside, if that statement is an item of a block or of the program. -/
def calleeSlot? (program : Program) (reference : Reference) : Option Slot :=
  (program.visitOf? reference).bind fun visit => visit.context.calleeSlot?

theorem enclosingStatement_of_calleeSlot? {program : Program} {symbol : Symbol}
    {reference : Reference} {slot : Slot} (huse : reference ∈ program.uses symbol)
    (hslot : program.calleeSlot? reference = some slot) :
    program.enclosingStatement reference = .ok slot := by
  obtain ⟨visit, occurrence, hvisit, hoccurrence, _, rfl⟩ := exists_visit_of_mem_uses huse
  rw [calleeSlot?, Visit.visitOf?_reference hvisit hoccurrence, Option.bind_some] at hslot
  rw [Visit.enclosingStatement_reference hvisit hoccurrence,
    Visit.anchor_of_occurrence? hoccurrence, Context.anchor_of_calleeSlot? hslot]
  rfl

end Program

end MarkerExpansion
