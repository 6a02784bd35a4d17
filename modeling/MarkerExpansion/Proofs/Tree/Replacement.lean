import MarkerExpansion.Proofs.Tree.Walk

/-!
Replacing a statement list.

A statement list at its place is the list with the number of that place, and putting another list
there fills the place anew. All else stays as it is.
-/

namespace MarkerExpansion

namespace Node

mutual

/-- A list that is not in a node is not replaced there. -/
theorem setList_of_outside (target : Nat) (new : List Node) (first : Nat) : ∀ node : Node,
    target < first ∨ first + node.listCount ≤ target → node.setList target new first = node
  | .ident identifier, _ => by simp [setList]
  | .binder identifier none, _ => by simp [setList]
  | .binder identifier (some typing), h => by
    rw [setList, setList_of_outside _ _ _ typing h]
  | .word span name, _ => by simp [setList]
  | .call span number callee arguments none, h => by
    simp only [listCount, lists, List.length_append] at h
    rw [setList, setList_of_outside _ _ _ callee (by unfold listCount; omega),
      setListOf_of_outside _ _ _ arguments (by unfold listCount listCountOf; omega)]
  | .call span number callee arguments (some typeArguments), h => by
    simp only [listCount, lists, List.length_append] at h
    rw [setList, setList_of_outside _ _ _ callee (by unfold listCount; omega),
      setListOf_of_outside _ _ _ arguments (by unfold listCount listCountOf; omega),
      setList_of_outside _ _ _ typeArguments (by unfold listCount listCountOf; omega)]
  | .argument spread value, h => by
    rw [setList, setList_of_outside _ _ _ value h]
  | .member span object property, h => by
    simp only [listCount, lists, List.length_append] at h
    rw [setList, setList_of_outside _ _ _ object (by unfold listCount; omega),
      setList_of_outside _ _ _ property (by unfold listCount; omega)]
  | .paren span inner, h => by
    rw [setList, setList_of_outside _ _ _ inner h]
  | .exprStmt span expression, h => by
    rw [setList, setList_of_outside _ _ _ expression h]
  | .varDecl span header declarators, h => by
    rw [setList, setListOf_of_outside _ _ _ declarators h]
  | .declarator span definite pattern none, h => by
    rw [setList, setList_of_outside _ _ _ pattern h]
  | .declarator span definite pattern (some init), h => by
    simp only [listCount, lists, List.length_append] at h
    rw [setList, setList_of_outside _ _ _ pattern (by unfold listCount; omega),
      setList_of_outside _ _ _ init (by unfold listCount; omega)]
  | .exportDecl span declaration, h => by
    rw [setList, setList_of_outside _ _ _ declaration h]
  | .importDecl decl, _ => by simp [setList]
  | .block span kind items, h => by
    simp only [listCount, lists, List.length_cons] at h
    rw [setList, if_neg (by omega),
      setListOf_of_outside _ _ _ items (by unfold listCountOf; omega)]
  | .switchCase span none items, h => by
    simp only [listCount, lists, List.length_cons] at h
    rw [setList, if_neg (by omega),
      setListOf_of_outside _ _ _ items (by unfold listCountOf; omega)]
  | .switchCase span (some test) items, h => by
    simp only [listCount, lists, List.length_append, List.length_cons] at h
    rw [setList, if_neg (by unfold listCount; omega),
      setList_of_outside _ _ _ test (by unfold listCount; omega),
      setListOf_of_outside _ _ _ items (by unfold listCount listCountOf; omega)]
  | .other form children, h => by
    rw [setList, setListOf_of_outside _ _ _ children h]

theorem setListOf_of_outside (target : Nat) (new : List Node) (first : Nat) :
    ∀ nodes : List Node, target < first ∨ first + listCountOf nodes ≤ target →
      setListOf target new first nodes = nodes
  | [], _ => by simp [setListOf]
  | node :: nodes, h => by
    rw [listCountOf_cons] at h
    rw [setListOf, setList_of_outside _ _ _ node (by omega),
      setListOf_of_outside _ _ _ nodes (by omega)]

end

end Node

namespace Frame

/-- The lists of a node are those before the hole, those in it and those after it. -/
theorem exists_lists_fill (frame : Frame) : ∃ before after : List (List Node),
    before.length = frame.listsBefore ∧
      ∀ node, (frame.fill node).lists = before ++ node.lists ++ after := by
  cases frame with
  | binderTyping identifier => exact ⟨[], [], rfl, by simp [Node.lists]⟩
  | callCallee span context arguments typeArguments =>
    cases typeArguments with
    | none => exact ⟨[], Node.listsOf arguments, rfl, by simp [Node.lists]⟩
    | some typeArguments =>
      exact ⟨[], Node.listsOf arguments ++ typeArguments.lists, rfl, by simp [Node.lists]⟩
  | callTypeArguments span context callee arguments =>
    exact ⟨callee.lists ++ Node.listsOf arguments, [],
      by simp [Node.listCount, Node.listCountOf], by simp [Node.lists]⟩
  | argumentValue spread => exact ⟨[], [], rfl, by simp [Node.lists]⟩
  | memberObject span property => exact ⟨[], property.lists, rfl, by simp [Node.lists]⟩
  | memberProperty span object => exact ⟨object.lists, [], rfl, by simp [Node.lists]⟩
  | parenInner span => exact ⟨[], [], rfl, by simp [Node.lists]⟩
  | statement span => exact ⟨[], [], rfl, by simp [Node.lists]⟩
  | declaratorPattern span definite init =>
    cases init with
    | none => exact ⟨[], [], rfl, by simp [Node.lists]⟩
    | some init => exact ⟨[], init.lists, rfl, by simp [Node.lists]⟩
  | declaratorInit span definite pattern => exact ⟨pattern.lists, [], rfl, by simp [Node.lists]⟩
  | exportDeclaration span => exact ⟨[], [], rfl, by simp [Node.lists]⟩
  | switchTest span items =>
    exact ⟨[], items :: Node.listsOf items, rfl, by simp [Node.lists]⟩

theorem setList_fill (frame : Frame) (node : Node) (new : List Node) {target first : Nat}
    (hfirst : first + frame.listsBefore ≤ target)
    (hlast : target < first + frame.listsBefore + node.listCount) :
    (frame.fill node).setList target new first =
      frame.fill (node.setList target new (first + frame.listsBefore)) := by
  cases frame with
  | callCallee span context arguments typeArguments =>
    simp only [listsBefore, Nat.add_zero] at hfirst hlast ⊢
    cases typeArguments with
    | none =>
      rw [fill, fill, Node.setList, Node.setListOf_of_outside _ _ _ arguments (by omega)]
    | some typeArguments =>
      rw [fill, fill, Node.setList, Node.setListOf_of_outside _ _ _ arguments (by omega),
        Node.setList_of_outside _ _ _ typeArguments (by omega)]
  | callTypeArguments span context callee arguments =>
    simp only [listsBefore] at hfirst hlast ⊢
    rw [fill, fill, Node.setList, Node.setList_of_outside _ _ _ callee (by omega),
      Node.setListOf_of_outside _ _ _ arguments (by omega), Nat.add_assoc]
  | memberObject span property =>
    simp only [listsBefore, Nat.add_zero] at hfirst hlast ⊢
    rw [fill, fill, Node.setList, Node.setList_of_outside _ _ _ property (by omega)]
  | memberProperty span object =>
    simp only [listsBefore] at hfirst hlast ⊢
    rw [fill, fill, Node.setList, Node.setList_of_outside _ _ _ object (by omega)]
  | declaratorPattern span definite init =>
    simp only [listsBefore, Nat.add_zero] at hfirst hlast ⊢
    cases init with
    | none => rw [fill, fill, Node.setList]
    | some init =>
      rw [fill, fill, Node.setList, Node.setList_of_outside _ _ _ init (by omega)]
  | declaratorInit span definite pattern =>
    simp only [listsBefore] at hfirst hlast ⊢
    rw [fill, fill, Node.setList, Node.setList_of_outside _ _ _ pattern (by omega)]
  | switchTest span items =>
    simp only [listsBefore, Nat.add_zero] at hfirst hlast ⊢
    rw [fill, fill, Node.setList, if_neg (by omega),
      Node.setListOf_of_outside _ _ _ items (by omega)]
  | _ => simp [Node.setList]

end Frame

mutual

/-- The lists of a node have the numbers from that of its place on. -/
theorem Context.lists_fill (node : Node) (offset : Nat) (hoffset : offset < node.listCount) :
    ∀ context : Context, (context.fill node).lists[context.first + offset]? = node.lists[offset]?
  | .frame outer frame => by
    obtain ⟨before, after, hbefore, hlists⟩ := frame.exists_lists_fill
    have hinner : frame.listsBefore + offset < (frame.fill node).listCount := by
      simp only [Node.listCount, hlists, List.length_append] at hoffset ⊢
      omega
    have houter := Context.lists_fill (frame.fill node) _ hinner outer
    rw [Context.fill, Context.first, Nat.add_assoc, houter, hlists, List.append_assoc,
      List.getElem?_append_right (by omega), hbefore, Nat.add_sub_cancel_left,
      List.getElem?_append_left hoffset]
  | .item row left right => by
    have hinner : Node.listCountOf left + offset < Node.listCountOf (left ++ node :: right) := by
      simp only [Node.listCountOf_append, Node.listCountOf_cons]
      omega
    have houter := Row.lists_fill (left ++ node :: right) _ hinner row
    rw [Context.fill, Context.first, Nat.add_assoc, houter, Node.listsOf_append, Node.listsOf,
      List.getElem?_append_right (by unfold Node.listCountOf; omega), Node.listCountOf,
      Nat.add_sub_cancel_left, List.getElem?_append_left hoffset]

theorem Row.lists_fill (nodes : List Node) (offset : Nat)
    (hoffset : offset < Node.listCountOf nodes) : ∀ row : Row,
    (row.fill nodes).lists[row.first + offset]? = (Node.listsOf nodes)[offset]?
  | .body .. => by simp [Program.lists, Nat.add_comm 1]
  | .block outer span kind => by
    have houter := Context.lists_fill (.block span kind nodes) (offset + 1)
      (by simpa [Node.listCount, Node.lists, Node.listCountOf] using hoffset) outer
    simpa [Node.lists, Nat.add_assoc, Nat.add_comm 1] using houter
  | .branch outer span none => by
    have houter := Context.lists_fill (.switchCase span none nodes) (offset + 1)
      (by simpa [Node.listCount, Node.lists, Node.listCountOf] using hoffset) outer
    simpa [Node.lists, Nat.add_assoc, Nat.add_comm 1] using houter
  | .branch outer span (some test) => by
    have houter := Context.lists_fill (.switchCase span (some test) nodes)
      (test.listCount + (offset + 1))
      (by simpa [Node.listCount, Node.lists, Node.listCountOf] using hoffset) outer
    simpa [Node.lists, Node.listCount, Nat.add_assoc, Nat.add_comm 1,
      List.getElem?_append_right] using houter
  | .arguments outer span context callee none => by
    have houter := Context.lists_fill (.call span context callee nodes none)
      (callee.listCount + offset)
      (by simpa [Node.listCount, Node.lists, Node.listCountOf] using hoffset) outer
    simpa [Node.lists, Node.listCount, Nat.add_assoc, List.getElem?_append_right] using houter
  | .arguments outer span context callee (some typeArguments) => by
    have houter := Context.lists_fill (.call span context callee nodes (some typeArguments))
      (callee.listCount + offset)
      (by
        simp only [Node.listCount, Node.lists, Node.listCountOf, List.length_append] at hoffset ⊢
        omega) outer
    rw [Node.listCountOf] at hoffset
    simpa [Node.lists, Node.listCount, Nat.add_assoc, List.getElem?_append_right,
      List.getElem?_append_left hoffset] using houter
  | .declarators outer span header =>
    Context.lists_fill (.varDecl span header nodes) offset hoffset outer
  | .children outer form => Context.lists_fill (.other form nodes) offset hoffset outer

end

mutual

theorem Context.setList_fill (node : Node) (new : List Node) (offset : Nat)
    (hoffset : offset < node.listCount) : ∀ context : Context,
    (context.fill node).setList (context.first + offset) new =
      context.fill (node.setList (context.first + offset) new context.first)
  | .frame outer frame => by
    obtain ⟨before, after, hbefore, hlists⟩ := frame.exists_lists_fill
    have hinner : frame.listsBefore + offset < (frame.fill node).listCount := by
      simp only [Node.listCount, hlists, List.length_append] at hoffset ⊢
      omega
    have houter := Context.setList_fill (frame.fill node) new _ hinner outer
    rw [Context.fill, Context.first, Nat.add_assoc, houter,
      frame.setList_fill node new (by omega) (by omega), Context.fill]
  | .item row left right => by
    have hinner : Node.listCountOf left + offset < Node.listCountOf (left ++ node :: right) := by
      simp only [Node.listCountOf_append, Node.listCountOf_cons]
      omega
    have houter := Row.setList_fill (left ++ node :: right) new _ hinner row
    rw [Context.fill, Context.first, Nat.add_assoc, houter, Node.setListOf_append,
      Node.setListOf_of_outside _ _ _ left (by omega), Node.setListOf,
      Node.setListOf_of_outside _ _ _ right (by omega), Context.fill]

theorem Row.setList_fill (nodes new : List Node) (offset : Nat)
    (hoffset : offset < Node.listCountOf nodes) : ∀ row : Row,
    (row.fill nodes).setList (row.first + offset) new =
      row.fill (Node.setListOf (row.first + offset) new row.first nodes)
  | .body kind span interpreter => by
    simp [Program.setList]
  | .block outer span kind => by
    have houter := Context.setList_fill (.block span kind nodes) new (offset + 1)
      (by simpa [Node.listCount, Node.lists, Node.listCountOf] using hoffset) outer
    simpa [Node.setList, Nat.add_assoc, Nat.add_comm 1] using houter
  | .branch outer span none => by
    have houter := Context.setList_fill (.switchCase span none nodes) new (offset + 1)
      (by simpa [Node.listCount, Node.lists, Node.listCountOf] using hoffset) outer
    simpa [Node.setList, Nat.add_assoc, Nat.add_comm 1] using houter
  | .branch outer span (some test) => by
    have houter := Context.setList_fill (.switchCase span (some test) nodes) new
      (test.listCount + (offset + 1))
      (by simpa [Node.listCount, Node.lists, Node.listCountOf] using hoffset) outer
    rw [Node.setList, if_neg (by omega), Node.setList_of_outside _ _ _ test (by omega)] at houter
    simpa [Nat.add_assoc, Nat.add_comm 1] using houter
  | .arguments outer span context callee none => by
    have houter := Context.setList_fill (.call span context callee nodes none) new
      (callee.listCount + offset)
      (by simpa [Node.listCount, Node.lists, Node.listCountOf] using hoffset) outer
    rw [Node.setList, Node.setList_of_outside _ _ _ callee (by omega)] at houter
    simpa [Nat.add_assoc] using houter
  | .arguments outer span context callee (some typeArguments) => by
    have houter := Context.setList_fill (.call span context callee nodes (some typeArguments)) new
      (callee.listCount + offset)
      (by
        simp only [Node.listCount, Node.lists, Node.listCountOf, List.length_append] at hoffset ⊢
        omega) outer
    rw [Node.setList, Node.setList_of_outside _ _ _ callee (by omega),
      Node.setList_of_outside _ _ _ typeArguments (by omega)] at houter
    simpa [Nat.add_assoc] using houter
  | .declarators outer span header =>
    Context.setList_fill (.varDecl span header nodes) new offset hoffset outer
  | .children outer form => Context.setList_fill (.other form nodes) new offset hoffset outer

end

namespace Row

/-- A statement list at its place is the list with the number of the place. -/
theorem lists_number {row : Row} {number : Nat} (hnumber : row.number? = some number)
    (items : List Node) : (row.fill items).lists[number]? = some items := by
  cases row with
  | body kind span interpreter =>
    cases hnumber
    rfl
  | block outer span kind =>
    cases hnumber
    simpa [Node.lists] using outer.lists_fill (.block span kind items) 0
      (by simp [Node.listCount, Node.lists])
  | branch outer span test =>
    cases test with
    | none =>
      cases hnumber
      simpa [Node.lists] using outer.lists_fill (.switchCase span none items) 0
        (by simp [Node.listCount, Node.lists])
    | some test =>
      cases hnumber
      simpa [Node.lists, Node.listCount] using
        outer.lists_fill (.switchCase span (some test) items) test.listCount
          (by simp [Node.listCount, Node.lists])
  | _ => cases hnumber

/-- Putting another statement list in the place of one fills the place anew. -/
theorem setList_number {row : Row} {number : Nat} (hnumber : row.number? = some number)
    (items new : List Node) : (row.fill items).setList number new = row.fill new := by
  cases row with
  | body kind span interpreter =>
    cases hnumber
    rfl
  | block outer span kind =>
    cases hnumber
    simpa [Node.setList] using outer.setList_fill (.block span kind items) new 0
      (by simp [Node.listCount, Node.lists])
  | branch outer span test =>
    cases test with
    | none =>
      cases hnumber
      simpa [Node.setList] using outer.setList_fill (.switchCase span none items) new 0
        (by simp [Node.listCount, Node.lists])
    | some test =>
      cases hnumber
      have houter := outer.setList_fill (.switchCase span (some test) items) new test.listCount
        (by simp [Node.listCount, Node.lists])
      rw [Node.setList, if_pos rfl, Node.setList_of_outside _ _ _ test (by omega)] at houter
      exact houter
  | _ => cases hnumber

end Row

end MarkerExpansion
