import MarkerExpansion.Decoration
import MarkerExpansion.Proofs.Tree.Address
import MarkerExpansion.Proofs.Tree.Replacement

/-!
Decorating at a place.

A marker call is carried out within the rest of its statement list: what stands before it in the
list, and all that is around the list, is left as it is.
-/

namespace MarkerExpansion

/-- The items before a marker call stay as they are. -/
theorem decorateAt_length_append (left items : List Node) :
    decorateAt (left ++ items) left.length =
      (decorateAt items 0).map fun (new, decorated) => (left ++ new, decorated) := by
  unfold decorateAt
  rw [List.drop_left, List.take_left, List.drop_zero, List.take_zero]
  split
  · next span expression following =>
    cases Target.find span following with
    | error error => rfl
    | ok target =>
      cases MarkerCall.ofStatement span expression with
      | error error => rfl
      | ok call => rfl
  · rfl

theorem index_lt_of_decorateAt {items new : List Node} {index : Nat} {decorated : Decorated}
    (hdecorate : decorateAt items index = .ok (new, decorated)) : index < items.length := by
  apply Nat.lt_of_not_le
  intro hindex
  rw [decorateAt, List.drop_eq_nil_of_le hindex] at hdecorate
  cases hdecorate

/-- A marker call in a statement list at its place is carried out in the list. -/
theorem Row.decorate_fill {row : Row} {number : Nat} (hnumber : row.number? = some number)
    (items : List Node) (index : Nat) :
    (row.fill items).decorate ⟨number, index⟩ =
      (decorateAt items index).map fun (new, decorated) => (row.fill new, decorated) := by
  unfold Program.decorate
  rw [row.lists_number hnumber]
  cases hdecorate : decorateAt items index with
  | error error => simp [hdecorate, bind, Except.bind, Except.map]
  | ok result =>
    simp [hdecorate, bind, Except.bind, Except.map, pure, Except.pure, row.setList_number hnumber]

namespace Program

/-- The visits of a walk before it comes to the item at `slot`. -/
def visitsBefore (program : Program) (slot : Slot) : List Visit :=
  program.walk.takeWhile fun visit => visit.context.address? ≠ some slot

/-- A slot in a statement list is a place in it, and the walk comes there after what it visits
before. -/
theorem exists_place {program : Program} {slot : Slot} {items : List Node}
    (hitems : program.lists[slot.container]? = some items) (hindex : slot.index < items.length) :
    ∃ row left node right, row.number? = some slot.container ∧ left.length = slot.index ∧
      row.fill (left ++ node :: right) = program ∧
      (Context.item row left right).before =
        (program.visitsBefore slot).filterMap Visit.occurrence? := by
  obtain ⟨visit, hvisit, haddress⟩ := exists_visit hitems hindex
  have hsome : (program.walk.find? fun visit => visit.context.address? = some slot).isSome :=
    List.find?_isSome.2 ⟨visit, hvisit, decide_eq_true haddress⟩
  obtain ⟨visit, hfind⟩ := Option.isSome_iff_exists.1 hsome
  obtain ⟨haddress, earlier, later, hwalk, hearlier⟩ := List.find?_eq_some_iff_append.1 hfind
  have hbefore : program.visitsBefore slot = earlier := by
    rw [visitsBefore, hwalk, List.takeWhile_append_of_pos (by simpa using hearlier),
      List.takeWhile_cons_of_neg (by simpa using haddress), List.append_nil]
  obtain ⟨hfill, hmet⟩ := Visit.Trace.visit (hwalk ▸ program.trace_walk)
  obtain ⟨context, node⟩ := visit
  cases context with
  | frame outer frame => simp [Context.address?] at haddress
  | item row left right =>
    obtain ⟨number, hnumber, hslot⟩ := Option.map_eq_some_iff.1 (of_decide_eq_true haddress)
    subst hslot
    exact ⟨row, left, node, right, hnumber, rfl, hfill, by simpa [hbefore] using hmet⟩

/-- What a decoration does: the rest of a statement list, from the marker call on, is replaced by
what the call makes of it. -/
theorem exists_place_of_decorate {program edited : Program} {slot : Slot} {decorated : Decorated}
    (hdecorate : program.decorate slot = .ok (edited, decorated)) :
    ∃ row left node right new, row.number? = some slot.container ∧ left.length = slot.index ∧
      row.fill (left ++ node :: right) = program ∧ row.fill (left ++ new) = edited ∧
      decorateAt (node :: right) 0 = .ok (new, decorated) ∧
      (Context.item row left right).before =
        (program.visitsBefore slot).filterMap Visit.occurrence? := by
  cases hitems : program.lists[slot.container]? with
  | none =>
    rw [decorate, hitems] at hdecorate
    cases hdecorate
  | some items =>
    have hindex : slot.index < items.length := by
      cases hlist : decorateAt items slot.index with
      | error error =>
        rw [decorate, hitems] at hdecorate
        simp [hlist, bind, Except.bind] at hdecorate
      | ok result => exact index_lt_of_decorateAt hlist
    obtain ⟨row, left, node, right, hnumber, hlength, hfill, hmet⟩ := exists_place hitems hindex
    have hrow := row.decorate_fill hnumber (left ++ node :: right) left.length
    rw [decorateAt_length_append, hfill, hlength, hdecorate] at hrow
    cases hrest : decorateAt (node :: right) 0 with
    | error error =>
      rw [hrest] at hrow
      cases hrow
    | ok result =>
      obtain ⟨new, made⟩ := result
      rw [hrest] at hrow
      cases hrow
      exact ⟨row, left, node, right, new, hnumber, hlength, hfill, rfl, hrest, hmet⟩

end Program

end MarkerExpansion
