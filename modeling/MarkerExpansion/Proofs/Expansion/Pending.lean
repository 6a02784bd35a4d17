import MarkerExpansion.Proofs.Expansion.Calls
import MarkerExpansion.Proofs.Expansion.Reach
import MarkerExpansion.Proofs.Reference.Listing
import MarkerExpansion.Proofs.Reference.Past

/-!
References that wait for their turn.

A marker call that is carried out disturbs nothing before its statement. The calls that are still
pending come earlier, so an expansion from the last call to the first finds each of them where it
was, unless it stands in the very statement that a later call takes away.
-/

namespace MarkerExpansion

/-- A walk has visited all that comes before a slot when it comes to the statement there. -/
theorem StatementAt.countP_visitsBefore_le {program : Program} {slot : Slot}
    (statement : StatementAt program slot) (symbol : Symbol) :
    (program.visitsBefore slot).countP (Visit.names symbol) ≤
      statement.place.before.countP (Occurrence.names symbol) := by
  have hmem := Visit.mem_walk
    ⟨statement.place, .exprStmt statement.span statement.expression⟩
  have haddress : statement.place.address? = some slot := by
    rw [place, Context.address?, Row.number?_of_container statement.container, Option.map_some,
      statement.length]
  have hfill : statement.place.fill (.exprStmt statement.span statement.expression) = program :=
    statement.fill
  rw [hfill] at hmem
  obtain ⟨earlier, later, hwalk⟩ := List.append_of_mem hmem
  have hbefore := (Visit.Trace.visit (hwalk ▸ program.trace_walk)).2
  rw [List.nil_append] at hbefore
  rw [hbefore, Visit.countP_filterMap_occurrence?, Program.visitsBefore, hwalk,
    List.takeWhile_append]
  split
  · apply Nat.le_of_eq
    rw [List.takeWhile_cons_of_neg (by simp [haddress]), List.append_nil]
  · exact (List.takeWhile_sublist _).countP_le

namespace Program

/-- A walk through `current` meets the identifier at `reference` where a walk through `program`
meets it, and has seen the same until then. -/
def Keeps (program current : Program) (reference : Reference) : Prop :=
  ∃ visit ∈ program.walk, ∃ kept ∈ current.walk, ∃ occurrence,
    visit.occurrence? = some occurrence ∧ visit.reference occurrence = reference ∧
      kept.seen = visit.seen

/-- The identifier at `other` comes before the statement around `reference`. -/
def Precedes (program : Program) (other reference : Reference) : Prop :=
  ∀ slot, program.enclosingStatement reference = .ok slot →
    ∀ visit, program.visitOf? reference = some visit →
      other.ordinal < visit.context.beforeStatement.countP (Occurrence.names other.symbol)

/-- No marker call stands in the statement around a later one: it comes before the statement. -/
def CallsApart (program : Program) (symbol : Symbol) : Prop :=
  ∀ call ∈ program.uses symbol, call.kind = .call → ∀ slot,
    program.enclosingStatement call = .ok slot →
      ∀ other ∈ program.uses symbol, other.kind = .call → other.ordinal < call.ordinal →
        other.ordinal < (program.visitsBefore slot).countP (Visit.names symbol)

variable {program current next : Program} {symbol : Symbol} {reference other : Reference}
  {decorated : Decorated}

theorem symbol_of_mem_uses (huse : reference ∈ program.uses symbol) :
    reference.symbol = symbol := by
  obtain ⟨_, _, _, _, hsymbol, rfl⟩ := exists_visit_of_mem_uses huse
  exact hsymbol

theorem keeps_of_mem_uses (huse : reference ∈ program.uses symbol) :
    program.Keeps program reference := by
  obtain ⟨visit, occurrence, hvisit, hoccurrence, _, hreference⟩ := exists_visit_of_mem_uses huse
  exact ⟨visit, hvisit, visit, hvisit, occurrence, hoccurrence, hreference, rfl⟩

namespace Keeps

theorem enclosingStatement (hkeeps : program.Keeps current reference) :
    current.enclosingStatement reference = program.enclosingStatement reference := by
  obtain ⟨visit, hvisit, kept, hkept, occurrence, hoccurrence, rfl, hseen⟩ := hkeeps
  have hsame := (Visit.occurrence?_of_seen hseen).trans hoccurrence
  rw [Visit.enclosingStatement_reference hvisit hoccurrence,
    ← Visit.reference_of_seen hseen, Visit.enclosingStatement_reference hkept hsame]

theorem calleeSlot? (hkeeps : program.Keeps current reference) :
    current.calleeSlot? reference = program.calleeSlot? reference := by
  obtain ⟨visit, hvisit, kept, hkept, occurrence, hoccurrence, rfl, hseen⟩ := hkeeps
  have hsame := (Visit.occurrence?_of_seen hseen).trans hoccurrence
  have hcurrent := Visit.visitOf?_reference hkept hsame
  rw [Visit.reference_of_seen hseen] at hcurrent
  rw [Program.calleeSlot?, Program.calleeSlot?, hcurrent,
    Visit.visitOf?_reference hvisit hoccurrence]
  exact Visit.calleeSlot?_of_seen hseen

theorem mem_uses (hkeeps : program.Keeps current reference) :
    reference ∈ current.uses reference.symbol := by
  obtain ⟨visit, _, kept, hkept, occurrence, hoccurrence, rfl, hseen⟩ := hkeeps
  rw [← Visit.reference_of_seen hseen]
  exact Visit.reference_mem_uses hkept ((Visit.occurrence?_of_seen hseen).trans hoccurrence)

/-- A marker call that is carried out keeps what comes before its statement. -/
theorem step (hreference : program.Keeps current reference) (hother : program.Keeps current other)
    (hprecedes : program.Precedes other reference)
    (hstep : current.decorateReference reference = .ok (next, decorated)) :
    program.Keeps next other := by
  obtain ⟨slot, hslot, hdecorate⟩ := decorateReference_eq_ok.1 hstep
  have hbefore := hprecedes slot (hreference.enclosingStatement.symm.trans hslot)
  obtain ⟨visit, hvisit, kept, hkept, occurrence, hoccurrence, rfl, hseen⟩ := hreference
  have hordinal := hbefore visit (Visit.visitOf?_reference hvisit hoccurrence)
  rw [← Visit.reference_of_seen hseen] at hslot
  -- The statement that goes is the innermost one around the identifier.
  obtain ⟨statement, _, hplace⟩ :=
    Visit.exists_statement hkept ((Visit.occurrence?_of_seen hseen).trans hoccurrence) hslot
  obtain ⟨new, _, rfl⟩ := statement.exists_new_of_decorate hdecorate
  obtain ⟨first, hfirst, met, hmet, found, hfound, rfl, hothers⟩ := hother
  rw [← Visit.beforeStatement_of_seen hseen, ← hplace, ← Visit.reference_of_seen hothers]
    at hordinal
  rw [← statement.fill] at hmet
  obtain ⟨last, hlast, hlastSeen⟩ := Row.exists_visit_seen hmet hordinal new
  exact ⟨first, hfirst, last, hlast, found, hfound, rfl, hlastSeen.trans hothers⟩

end Keeps

/-- At every moment of an expansion the pending calls are where they were, if each comes before the
statements of all later ones. -/
theorem Reaches.keeps {calls pending : List Reference} {done : List Decorated}
    (hcalls : ∀ reference ∈ calls, program.Keeps program reference)
    (hprecedes : calls.Pairwise fun reference other => program.Precedes other reference)
    (hreaches : program.Reaches calls current pending done) :
    ∀ reference ∈ pending, program.Keeps current reference := by
  induction hreaches with
  | start => exact hcalls
  | step hcurrent hstep ih =>
    intro other hother
    have hrest := List.pairwise_cons.1 (hprecedes.sublist hcurrent.suffix.sublist)
    exact (ih _ List.mem_cons_self).step (ih _ (List.mem_cons_of_mem _ hother))
      (hrest.1 other hother) hstep

theorem mem_calls : reference ∈ (callsFrom symbol 0 program.occurrences).reverse ↔
    reference ∈ program.uses symbol ∧ reference.kind = .call := by
  simp [callsFrom, uses_eq_usesFrom]

theorem pairwise_calls (program : Program) (symbol : Symbol) :
    (callsFrom symbol 0 program.occurrences).reverse.Pairwise fun reference other =>
      other.ordinal < reference.ordinal := by
  rw [List.pairwise_reverse]
  exact (program.pairwise_uses symbol).filter _

theorem Reaches.keeps_calls {pending : List Reference} {done : List Decorated}
    (hprecedes : ∀ reference ∈ program.uses symbol, reference.kind = .call →
      ∀ other ∈ program.uses symbol, other.kind = .call → other.ordinal < reference.ordinal →
        program.Precedes other reference)
    (hreaches : program.Reaches (callsFrom symbol 0 program.occurrences).reverse current pending
      done) : ∀ reference ∈ pending, program.Keeps current reference := by
  refine hreaches.keeps ?_ ?_
  · intro reference hreference
    exact keeps_of_mem_uses (mem_calls.1 hreference).1
  · refine (program.pairwise_calls symbol).imp_of_mem ?_
    intro reference other hreference hother hordinal
    obtain ⟨huse, hkind⟩ := mem_calls.1 hreference
    obtain ⟨hotherUse, hotherKind⟩ := mem_calls.1 hother
    exact hprecedes reference huse hkind other hotherUse hotherKind hordinal

/-- A marker call that is a statement of its own is the first identifier in it, so that all earlier
ones precede the statement. -/
theorem CallsAreStatements.precedes (hcalls : program.CallsAreStatements symbol)
    (huse : reference ∈ program.uses symbol) (hkind : reference.kind = .call)
    (hother : other ∈ program.uses symbol) (hordinal : other.ordinal < reference.ordinal) :
    program.Precedes other reference := by
  intro slot hslot visit hvisit
  have hcallee := hcalls reference huse hkind slot hslot
  rw [Program.calleeSlot?, hvisit, Option.bind_some] at hcallee
  rw [Context.beforeStatement_of_calleeSlot? hcallee]
  obtain ⟨first, occurrence, hfirst, hoccurrence, rfl, rfl⟩ := exists_visit_of_mem_uses huse
  rw [Visit.visitOf?_reference hfirst hoccurrence] at hvisit
  cases hvisit
  rw [symbol_of_mem_uses hother]
  exact hordinal

theorem CallsApart.precedes (hapart : program.CallsApart symbol)
    (huse : reference ∈ program.uses symbol) (hkind : reference.kind = .call)
    (hother : other ∈ program.uses symbol) (hotherKind : other.kind = .call)
    (hordinal : other.ordinal < reference.ordinal) : program.Precedes other reference := by
  intro slot hslot visit hvisit
  have hbefore := hapart reference huse hkind slot hslot other hother hotherKind hordinal
  obtain ⟨first, occurrence, hfirst, hoccurrence, _, rfl⟩ := exists_visit_of_mem_uses huse
  rw [Visit.visitOf?_reference hfirst hoccurrence] at hvisit
  cases hvisit
  obtain ⟨statement, _, hplace⟩ := Visit.exists_statement hfirst hoccurrence hslot
  rw [← hplace, symbol_of_mem_uses hother]
  exact Nat.lt_of_lt_of_le hbefore (statement.countP_visitsBefore_le _)

/-- A marker call at a use may fail, but not because there is no such identifier or statement. -/
theorem message_of_decorateReference {error : Error}
    (huse : reference ∈ program.uses symbol)
    (herror : program.decorateReference reference = .error error) :
    error.message ≠ "Expression not found" := by
  obtain ⟨visit, occurrence, hvisit, hoccurrence, _, rfl⟩ := exists_visit_of_mem_uses huse
  cases hslot : program.enclosingStatement (visit.reference occurrence) with
  | error other =>
    rw [decorateReference, hslot] at herror
    cases herror
    rw [Visit.enclosingStatement_reference hvisit hoccurrence] at hslot
    exact Anchor.message_of_resolve hslot
  | ok slot =>
    obtain ⟨statement, _⟩ := Visit.exists_statement hvisit hoccurrence hslot
    rw [decorateReference, hslot] at herror
    exact statement.message_of_decorate herror

end Program

/-- Where no marker call stands in the statement around a later one, every pending call is looked up
with the same result at each moment of an expansion as in the beginning, and is found. -/
theorem pending_calls_keep_their_statements {program : Program} {symbol : Symbol}
    (hapart : program.CallsApart symbol) :
    let references := program.references [⟨markerName, symbol⟩]
    ∃ calls, references.markerCalls = .ok calls ∧
      (∀ current pending done, program.Reaches calls current pending done →
        ∀ reference ∈ pending,
          current.enclosingStatement reference = program.enclosingStatement reference) ∧
      ∀ error, (program.expand references).failure = some error →
        error.message ≠ "Expression not found" := by
  intro references
  have hkeeps {current : Program} {pending : List Reference} {done : List Decorated}
      (hreaches : program.Reaches (callsFrom symbol 0 program.occurrences).reverse current pending
        done) : ∀ reference ∈ pending, program.Keeps current reference :=
    hreaches.keeps_calls fun _ huse hkind _ hother hotherKind hordinal =>
      hapart.precedes huse hkind hother hotherKind hordinal
  refine ⟨_, program.markerCalls_marker symbol, ?_, ?_⟩
  · intro current pending done hreaches reference hreference
    exact (hkeeps hreaches reference hreference).enclosingStatement
  · intro error herror
    rw [program.expand_references symbol] at herror
    obtain ⟨left, hlast, _, hfailure⟩ := Program.Reaches.start.exists_last
    obtain ⟨reference, rest, rfl, hstep⟩ := hfailure error herror
    have hkept := hkeeps hlast reference List.mem_cons_self
    exact Program.message_of_decorateReference hkept.mem_uses hstep

theorem pending_calls_keep_their_statements_sample :
    let program := Sample.program
    let references := program.references [⟨markerName, Sample.marker⟩]
    program.CallsApart Sample.marker ∧
    ∃ calls, references.markerCalls = .ok calls ∧ calls.length = 3 ∧
      ∀ current pending done, program.Reaches calls current pending done →
        ∀ reference ∈ pending,
          current.enclosingStatement reference = program.enclosingStatement reference := by
  intro program references
  have hslots : ∀ call ∈ Sample.program.uses Sample.marker, call.kind = .call →
      ∀ slot ∈ (Sample.program.enclosingStatement call).toOption.toList,
        ∀ other ∈ Sample.program.uses Sample.marker, other.kind = .call →
          other.ordinal < call.ordinal → other.ordinal <
            (Sample.program.visitsBefore slot).countP (Visit.names Sample.marker) := by
    decide
  have hapart : program.CallsApart Sample.marker := by
    intro call hcall hkind slot hslot
    have hmem : slot ∈ (program.enclosingStatement call).toOption.toList := by
      rw [hslot]
      exact List.mem_singleton_self slot
    exact hslots call hcall hkind slot hmem
  obtain ⟨calls, hcalls, hmoments, _⟩ := pending_calls_keep_their_statements hapart
  refine ⟨hapart, calls, hcalls, ?_, hmoments⟩
  cases hcalls
  rfl

/-- A marker call among the arguments of another one is carried out as if it were the statement, and
the other one is not found any more. -/
theorem pending_call_lost_by_inner_call :
    let program := Sample.decorating (Sample.markerAt 0) (Sample.name "log" 9)
      (Sample.innerCall 14)
    let references := program.references [⟨markerName, Sample.marker⟩]
    ∃ calls current done reference, references.markerCalls = .ok calls ∧
      program.Reaches calls current [reference] done ∧
      program.enclosingStatement reference = .ok ⟨0, 0⟩ ∧
      current.enclosingStatement reference = .error ⟨⟨14, 22⟩, .notFound⟩ ∧
      (program.expand references).failure = some ⟨⟨14, 22⟩, .notFound⟩ :=
  ⟨_, _, _, _, rfl, .step .start rfl, rfl, rfl, rfl⟩

end MarkerExpansion
