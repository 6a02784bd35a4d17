import MarkerExpansion.Proofs.Decoration.Earlier
import MarkerExpansion.Proofs.Decoration.Inversion
import MarkerExpansion.Proofs.Expansion.Reach

/-!
Expanding a program that is expanded.

Imports stand among the items of the program. A marker call deletes an expression statement there
and changes what is inside a declaration, so that no import of the marker can come back once the
imports are taken, however far the expansion gets.
-/

namespace MarkerExpansion

variable {pattern : Pattern}

theorem Frame.markerImport?_fill (frame : Frame) (node : Node) :
    (frame.fill node).markerImport? pattern = none := by
  cases frame <;> rfl

mutual

/-- The imports of a program stay the same whatever stands inside its items. -/
theorem Context.markerImports_fill (node other : Node)
    (hnode : node.markerImport? pattern = other.markerImport? pattern) : ∀ context : Context,
    (context.fill node).markerImports pattern = (context.fill other).markerImports pattern
  | .frame outer frame => outer.markerImports_fill (frame.fill node) (frame.fill other)
    ((frame.markerImport?_fill node).trans (frame.markerImport?_fill other).symm)
  | .item row left right => row.markerImports_fill (left ++ node :: right)
    (left ++ other :: right) (by simp [List.filterMap_cons, hnode])

theorem Row.markerImports_fill (nodes others : List Node)
    (hnodes : nodes.filterMap (Node.markerImport? pattern) =
      others.filterMap (Node.markerImport? pattern)) : ∀ row : Row,
    (row.fill nodes).markerImports pattern = (row.fill others).markerImports pattern
  | .body kind span interpreter => by cases kind <;> simp [Program.markerImports, hnodes]
  | .block outer span kind =>
    outer.markerImports_fill (.block span kind nodes) (.block span kind others) rfl
  | .branch outer span test =>
    outer.markerImports_fill (.switchCase span test nodes) (.switchCase span test others) rfl
  | .arguments outer span context callee typeArguments =>
    outer.markerImports_fill (.call span context callee nodes typeArguments)
      (.call span context callee others typeArguments) rfl
  | .declarators outer span header =>
    outer.markerImports_fill (.varDecl span header nodes) (.varDecl span header others) rfl
  | .children outer form => outer.markerImports_fill (.other form nodes) (.other form others) rfl

end

@[simp] theorem Declaration.markerImport?_toNode (declaration : Declaration) :
    declaration.toNode.markerImport? pattern = none := by
  obtain ⟨exported, span, header, declarators⟩ := declaration
  cases exported <;> rfl

theorem Target.markerImports_withInit (target : Target) (init other : Node) :
    (target.withInit init).filterMap (Node.markerImport? pattern) =
      (target.withInit other).filterMap (Node.markerImport? pattern) := by
  simp [withInit]

namespace Program

variable {program edited : Program}

theorem markerImports_decorate {slot : Slot} {decorated : Decorated}
    (hdecorate : program.decorate slot = .ok (edited, decorated)) :
    edited.markerImports pattern = program.markerImports pattern := by
  obtain ⟨row, left, node, right, new, _, _, rfl, rfl, hnew, _⟩ :=
    exists_place_of_decorate hdecorate
  obtain ⟨span, expression, target, call, rfl, hfind, _, rfl, _⟩ :=
    exists_call_of_decorateAt_zero hnew
  apply row.markerImports_fill
  rw [List.filterMap_append, List.filterMap_append, List.filterMap_cons_none rfl,
    ← Target.withInit_init hfind, target.markerImports_withInit _ target.init]

theorem markerImports_expand (program : Program) (references : References) :
    (program.expand references).program.markerImports pattern =
      program.markerImports pattern := by
  apply expand_invariant (motive := fun current =>
    current.markerImports pattern = program.markerImports pattern)
  · rfl
  · intro before after slot decorated hdecorate hbefore
    exact (markerImports_decorate hdecorate).trans hbefore

theorem markerImports_takeImports {bindings : List Binding}
    (htake : program.takeImports pattern = (some bindings, edited)) :
    edited.markerImports pattern = [] := by
  unfold takeImports at htake
  split at htake
  · cases htake
  · cases htake
    unfold markerImports
    split
    · simp
    · rfl

theorem takeImports_of_markerImports (himports : program.markerImports pattern = []) :
    program.takeImports pattern = (none, program) := by
  rw [takeImports, himports]

/-- An expansion, whether it succeeds or not, leaves no import of the marker. -/
theorem markerImports_expandImports {config : Config} (hpattern : config.pattern = .ok pattern) :
    (program.expandImports config).program.markerImports pattern = [] := by
  simp only [expandImports, hpattern]
  cases htake : program.takeImports pattern with
  | mk bindings taken =>
    cases bindings with
    | some bindings =>
      exact (markerImports_expand taken _).trans (markerImports_takeImports htake)
    | none =>
      unfold takeImports at htake
      split at htake
      · next himports => exact himports
      · cases htake

end Program

theorem expandImports_again {program : Program} {config : Config} {pattern : Pattern}
    (hpattern : config.pattern = .ok pattern) :
    let expanded := (program.expandImports config).program
    expanded.expandImports config = { program := expanded } := by
  intro expanded
  have himports : expanded.markerImports pattern = [] :=
    Program.markerImports_expandImports hpattern
  rw [Program.expandImports, hpattern]
  simp only [Program.takeImports_of_markerImports himports]

theorem expandImports_again_sample :
    let expansion := (Sample.importing Sample.unfinished).expandImports .default
    (∃ pattern, Config.default.pattern = .ok pattern) ∧
      expansion.failure = some ⟨⟨215, 255⟩, .noDeclaration⟩ ∧ expansion.decorated.length = 3 ∧
      expansion.program.expandImports .default = { program := expansion.program } := by
  intro expansion
  obtain ⟨pattern, hpattern⟩ : ∃ pattern, Config.default.pattern = .ok pattern :=
    ⟨_, by with_unfolding_all rfl⟩
  exact ⟨⟨pattern, hpattern⟩, by with_unfolding_all rfl, by with_unfolding_all rfl,
    expandImports_again hpattern⟩

end MarkerExpansion
