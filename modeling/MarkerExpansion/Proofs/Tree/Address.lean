import MarkerExpansion.Proofs.Tree.Walk

/-!
The addresses of statements.

Every item of a statement list is visited under its address, that is the number of the list and its
index there.
-/

namespace MarkerExpansion

/-- The address of the node at a place, if it is an item of a statement list. -/
def Context.address? : Context → Option Slot
  | .frame .. => none
  | .item row left _ => row.number?.map fun number => ⟨number, left.length⟩

private theorem getElem?_append_cases {α : Type} {left right : List α} {index : Nat} {value : α}
    (h : (left ++ right)[index]? = some value) :
    left[index]? = some value ∨
      ∃ offset, index = left.length + offset ∧ right[offset]? = some value := by
  by_cases hindex : index < left.length
  · exact .inl (by rwa [List.getElem?_append_left hindex] at h)
  · rw [List.getElem?_append_right (by omega)] at h
    exact .inr ⟨index - left.length, by omega, h⟩

namespace Node

/-- The items of a row are visited under their indices. -/
theorem exists_visit_item (row : Row) {number : Nat} (hnumber : row.number? = some number)
    (left : List Node) {nodes : List Node} {index : Nat} (hindex : index < nodes.length) :
    ∃ visit ∈ walkRow row left nodes,
      visit.context.address? = some ⟨number, left.length + index⟩ := by
  induction nodes generalizing left index with
  | nil => simp at hindex
  | cons node right ih =>
    rw [walkRow]
    cases index with
    | zero =>
      refine ⟨⟨.item row left right, node⟩, ?_, by rw [Context.address?, hnumber]; rfl⟩
      exact List.mem_append_left _ (mem_walk_self _ node)
    | succ index =>
      obtain ⟨visit, hvisit, haddress⟩ := ih (left ++ [node]) (by simpa using hindex)
      refine ⟨visit, List.mem_append_right _ hvisit, ?_⟩
      simpa [Nat.add_assoc, Nat.add_comm 1] using haddress

mutual

/-- The items of the lists of a node are visited under their addresses. -/
theorem exists_visit (context : Context) {items : List Node} {index : Nat}
    (hindex : index < items.length) : ∀ (node : Node) (offset : Nat),
    node.lists[offset]? = some items → ∃ visit ∈ node.walk context,
      visit.context.address? = some ⟨context.first + offset, index⟩
  | .ident _, _, h => by simp [lists] at h
  | .binder _ none, _, h => by simp [lists] at h
  | .binder identifier (some typing), offset, h => by
    obtain ⟨visit, hvisit, haddress⟩ :=
      exists_visit (.frame context (.binderTyping identifier)) hindex typing offset h
    exact ⟨visit, by simp [walk, hvisit], by simpa using haddress⟩
  | .word _ _, _, h => by simp [lists] at h
  | .call span number callee arguments none, offset, h => by
    rw [lists] at h
    obtain hleft | ⟨rest, rfl, hright⟩ := getElem?_append_cases h
    · obtain ⟨visit, hvisit, haddress⟩ := exists_visit
        (.frame context (.callCallee span number arguments none)) hindex callee offset hleft
      exact ⟨visit, by simp [walk, hvisit], by simpa using haddress⟩
    · obtain ⟨visit, hvisit, haddress⟩ := exists_visit_row
        (.arguments context span number callee none) [] hindex arguments rest hright
      exact ⟨visit, by simp [walk, hvisit], by simpa [listCount, Nat.add_assoc] using haddress⟩
  | .call span number callee arguments (some typeArguments), offset, h => by
    rw [lists, List.append_assoc] at h
    obtain hleft | ⟨rest, rfl, hright⟩ := getElem?_append_cases h
    · obtain ⟨visit, hvisit, haddress⟩ := exists_visit
        (.frame context (.callCallee span number arguments (some typeArguments))) hindex callee
        offset hleft
      exact ⟨visit, by simp [walk, hvisit], by simpa using haddress⟩
    obtain hmiddle | ⟨last, rfl, hlast⟩ := getElem?_append_cases hright
    · obtain ⟨visit, hvisit, haddress⟩ := exists_visit_row
        (.arguments context span number callee (some typeArguments)) [] hindex arguments rest
        hmiddle
      exact ⟨visit, by simp [walk, hvisit], by simpa [listCount, Nat.add_assoc] using haddress⟩
    · obtain ⟨visit, hvisit, haddress⟩ := exists_visit
        (.frame context (.callTypeArguments span number callee arguments)) hindex typeArguments
        last hlast
      exact ⟨visit, by simp [walk, hvisit],
        by simpa [listCount, listCountOf, Nat.add_assoc] using haddress⟩
  | .argument spread value, offset, h => by
    obtain ⟨visit, hvisit, haddress⟩ :=
      exists_visit (.frame context (.argumentValue spread)) hindex value offset h
    exact ⟨visit, by simp [walk, hvisit], by simpa using haddress⟩
  | .member span object property, offset, h => by
    rw [lists] at h
    obtain hleft | ⟨rest, rfl, hright⟩ := getElem?_append_cases h
    · obtain ⟨visit, hvisit, haddress⟩ :=
        exists_visit (.frame context (.memberObject span property)) hindex object offset hleft
      exact ⟨visit, by simp [walk, hvisit], by simpa using haddress⟩
    · obtain ⟨visit, hvisit, haddress⟩ :=
        exists_visit (.frame context (.memberProperty span object)) hindex property rest hright
      exact ⟨visit, by simp [walk, hvisit], by simpa [listCount, Nat.add_assoc] using haddress⟩
  | .paren span inner, offset, h => by
    obtain ⟨visit, hvisit, haddress⟩ :=
      exists_visit (.frame context (.parenInner span)) hindex inner offset h
    exact ⟨visit, by simp [walk, hvisit], by simpa using haddress⟩
  | .exprStmt span expression, offset, h => by
    obtain ⟨visit, hvisit, haddress⟩ :=
      exists_visit (.frame context (.statement span)) hindex expression offset h
    exact ⟨visit, by simp [walk, hvisit], by simpa using haddress⟩
  | .varDecl span header declarators, offset, h => by
    obtain ⟨visit, hvisit, haddress⟩ :=
      exists_visit_row (.declarators context span header) [] hindex declarators offset h
    exact ⟨visit, by simp [walk, hvisit], by simpa using haddress⟩
  | .declarator span definite pattern none, offset, h => by
    obtain ⟨visit, hvisit, haddress⟩ := exists_visit
      (.frame context (.declaratorPattern span definite none)) hindex pattern offset h
    exact ⟨visit, by simp [walk, hvisit], by simpa using haddress⟩
  | .declarator span definite pattern (some init), offset, h => by
    rw [lists] at h
    obtain hleft | ⟨rest, rfl, hright⟩ := getElem?_append_cases h
    · obtain ⟨visit, hvisit, haddress⟩ := exists_visit
        (.frame context (.declaratorPattern span definite (some init))) hindex pattern offset hleft
      exact ⟨visit, by simp [walk, hvisit], by simpa using haddress⟩
    · obtain ⟨visit, hvisit, haddress⟩ := exists_visit
        (.frame context (.declaratorInit span definite pattern)) hindex init rest hright
      exact ⟨visit, by simp [walk, hvisit], by simpa [listCount, Nat.add_assoc] using haddress⟩
  | .exportDecl span declaration, offset, h => by
    obtain ⟨visit, hvisit, haddress⟩ :=
      exists_visit (.frame context (.exportDeclaration span)) hindex declaration offset h
    exact ⟨visit, by simp [walk, hvisit], by simpa using haddress⟩
  | .importDecl _, _, h => by simp [lists] at h
  | .block span kind nodes, offset, h => by
    cases offset with
    | zero =>
      cases h
      obtain ⟨visit, hvisit, haddress⟩ :=
        exists_visit_item (.block context span kind) rfl [] hindex
      exact ⟨visit, by simp [walk, hvisit], by simpa using haddress⟩
    | succ offset =>
      obtain ⟨visit, hvisit, haddress⟩ :=
        exists_visit_row (.block context span kind) [] hindex nodes offset h
      exact ⟨visit, by simp [walk, hvisit],
        by simpa [Nat.add_assoc, Nat.add_comm 1] using haddress⟩
  | .switchCase span none nodes, offset, h => by
    cases offset with
    | zero =>
      cases h
      obtain ⟨visit, hvisit, haddress⟩ :=
        exists_visit_item (.branch context span none) rfl [] hindex
      exact ⟨visit, by simp [walk, hvisit], by simpa using haddress⟩
    | succ offset =>
      obtain ⟨visit, hvisit, haddress⟩ :=
        exists_visit_row (.branch context span none) [] hindex nodes offset h
      exact ⟨visit, by simp [walk, hvisit],
        by simpa [Nat.add_assoc, Nat.add_comm 1] using haddress⟩
  | .switchCase span (some test) nodes, offset, h => by
    rw [lists] at h
    obtain hleft | ⟨rest, rfl, hright⟩ := getElem?_append_cases h
    · obtain ⟨visit, hvisit, haddress⟩ :=
        exists_visit (.frame context (.switchTest span nodes)) hindex test offset hleft
      exact ⟨visit, by simp [walk, hvisit], by simpa using haddress⟩
    cases rest with
    | zero =>
      cases hright
      obtain ⟨visit, hvisit, haddress⟩ :=
        exists_visit_item (.branch context span (some test)) rfl [] hindex
      exact ⟨visit, by simp [walk, hvisit], by simpa [listCount] using haddress⟩
    | succ rest =>
      obtain ⟨visit, hvisit, haddress⟩ :=
        exists_visit_row (.branch context span (some test)) [] hindex nodes rest hright
      exact ⟨visit, by simp [walk, hvisit],
        by simpa [listCount, Nat.add_assoc, Nat.add_comm 1] using haddress⟩
  | .other form children, offset, h => by
    obtain ⟨visit, hvisit, haddress⟩ :=
      exists_visit_row (.children context form) [] hindex children offset h
    exact ⟨visit, by simp [walk, hvisit], by simpa using haddress⟩

theorem exists_visit_row (row : Row) (left : List Node) {items : List Node} {index : Nat}
    (hindex : index < items.length) : ∀ (nodes : List Node) (offset : Nat),
    (listsOf nodes)[offset]? = some items → ∃ visit ∈ walkRow row left nodes,
      visit.context.address? = some ⟨row.first + listCountOf left + offset, index⟩
  | [], _, h => by simp [listsOf] at h
  | node :: right, offset, h => by
    rw [listsOf] at h
    rw [walkRow]
    obtain hleft | ⟨rest, rfl, hright⟩ := getElem?_append_cases h
    · obtain ⟨visit, hvisit, haddress⟩ :=
        exists_visit (.item row left right) hindex node offset hleft
      exact ⟨visit, List.mem_append_left _ hvisit, by simpa using haddress⟩
    · obtain ⟨visit, hvisit, haddress⟩ :=
        exists_visit_row row (left ++ [node]) hindex right rest hright
      exact ⟨visit, List.mem_append_right _ hvisit,
        by simpa [listCount, Nat.add_assoc] using haddress⟩

end

end Node

/-- Every item of every statement list of a program is visited under its address. -/
theorem Program.exists_visit {program : Program} {slot : Slot} {items : List Node}
    (hitems : program.lists[slot.container]? = some items) (hindex : slot.index < items.length) :
    ∃ visit ∈ program.walk, visit.context.address? = some slot := by
  obtain ⟨container, index⟩ := slot
  cases container with
  | zero =>
    cases hitems
    obtain ⟨visit, hvisit, haddress⟩ := Node.exists_visit_item program.bodyRow rfl [] hindex
    exact ⟨visit, hvisit, by simpa using haddress⟩
  | succ offset =>
    obtain ⟨visit, hvisit, haddress⟩ :=
      Node.exists_visit_row program.bodyRow [] hindex program.body offset hitems
    exact ⟨visit, hvisit, by simpa [bodyRow, Nat.add_comm 1] using haddress⟩

end MarkerExpansion
