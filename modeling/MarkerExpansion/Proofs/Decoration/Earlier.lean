import MarkerExpansion.Proofs.Decoration.Place
import MarkerExpansion.Proofs.Reference.Visit

/-!
What a decoration leaves alone.

A decoration deletes a statement, moves its arguments and may copy the decorated function any number
of times. All of that happens after the place of the statement, so that whatever a walk meets before
keeps its number and its surroundings.
-/

namespace MarkerExpansion

/-- The program before a decoration and the one after it begin alike, up to the place of the marker
call. -/
theorem Program.decorate_met {program edited : Program} {slot : Slot} {decorated : Decorated}
    (hdecorate : program.decorate slot = .ok (edited, decorated)) :
    (program.visitsBefore slot).filterMap Visit.occurrence? <+: program.occurrences ∧
      (program.visitsBefore slot).filterMap Visit.occurrence? <+: edited.occurrences := by
  obtain ⟨row, left, node, right, new, _, _, rfl, rfl, _, hmet⟩ :=
    exists_place_of_decorate hdecorate
  rw [← hmet]
  exact ⟨row.before_item_prefix left right (node :: right), row.before_item_prefix left right new⟩

theorem decorate_keeps_earlier_sites {program edited : Program} {slot : Slot}
    {decorated : Decorated} (hdecorate : program.decorate slot = .ok (edited, decorated))
    (symbol : Symbol) :
    let earlier := (program.visitsBefore slot).countP (Visit.names symbol)
    (edited.uses symbol).take earlier = (program.uses symbol).take earlier ∧
      ∀ reference : Reference, reference.symbol = symbol → reference.ordinal < earlier →
        edited.enclosingStatement reference = program.enclosingStatement reference := by
  intro earlier
  obtain ⟨hprogram, hedited⟩ := Program.decorate_met hdecorate
  have hearlier : earlier = _ := (Visit.countP_filterMap_occurrence? symbol _).symm
  constructor
  · rw [hearlier, Program.take_uses hedited, Program.take_uses hprogram]
  · rintro reference rfl hordinal
    exact Program.enclosingStatement_congr hprogram hedited (hearlier ▸ hordinal)

namespace Sample

/-- The marker as a module binds it. -/
def marker : Symbol := ⟨markerName, 1⟩

def name (text : String) (start : Nat) : Ident := ⟨⟨text, 0⟩, ⟨start, start + text.length⟩, false⟩

def target (start : Nat) : Node :=
  .member ⟨start, start + 15⟩ (.ident ⟨marker, ⟨start, start + 8⟩, false⟩)
    (.word ⟨start + 9, start + 15⟩ targetName)

/-- The statement `decorate(decorator, argument);` in parentheses. -/
def markerCall (start : Nat) (decorator : String) (argument : Node) : Node :=
  .exprStmt ⟨start, start + 40⟩ (.paren ⟨start, start + 39⟩ (.call ⟨start + 1, start + 38⟩ 0
    (.ident ⟨marker, ⟨start + 1, start + 9⟩, false⟩)
    [.argument none (.ident (name decorator (start + 10))), .argument none argument] none))

def constant (start : Nat) (text : String) (init : Node) : Node :=
  .varDecl ⟨start, start + 60⟩ ⟨"const", false, 0⟩
    [.declarator ⟨start, start + 59⟩ false (.binder (name text (start + 6)) none) (some init)]

/-- The body of the arrow function that `program` decorates twice. -/
def body : List Node :=
  [markerCall 120 "wrap" (target 140),
    constant 170 "inner" (.call ⟨180, 186⟩ 0 (.ident (name "make" 180)) [] none)]

/-- Two marker calls above a constant whose function has a marker call inside. -/
def program : Program where
  kind := .module
  span := ⟨0, 200⟩
  interpreter := none
  body :=
    [markerCall 0 "log" (target 20), markerCall 40 "memo" (.word ⟨60, 61⟩ "x"),
      constant 80 "greet" (.other ⟨some "ArrowFunctionExpression", none, [], []⟩
        [.block ⟨110, 190⟩ (.statement 0) body])]

/-- The same below a block with a marker call that no declaration follows. -/
def unfinished : Program :=
  { program with
    body :=
      .block ⟨210, 260⟩ (.statement 0) [markerCall 215 "trace" (.word ⟨240, 241⟩ "y")]
        :: program.body }

def markerAt (start : Nat) : Ident := ⟨marker, ⟨start, start + 8⟩, false⟩

/-- The call `make()`. -/
def made : Node := .call ⟨80, 86⟩ 0 (.ident (name "make" 80)) [] none

/-- The program `callee(decorator, argument); const f = make();`. -/
def decorating (callee decorator : Ident) (argument : Node) : Program where
  kind := .module
  span := ⟨0, 130⟩
  interpreter := none
  body :=
    [.exprStmt ⟨0, 60⟩ (.call ⟨0, 59⟩ 0 (.ident callee)
        [.argument none (.ident decorator), .argument none argument] none),
      constant 61 "f" made]

/-- The call `decorate(wrap, decorate.target)` as a part of an expression. -/
def innerCall (start : Nat) : Node :=
  .call ⟨start, start + 31⟩ 0 (.ident (markerAt start))
    [.argument none (.ident (name "wrap" (start + 9))), .argument none (target (start + 15))] none

/-- The import `import { decorate } from "./decorate.macro";`. -/
def markerImport : Node :=
  .importDecl ⟨⟨270, 310⟩, "./decorate.macro", false, [.named none marker false], .null⟩

/-- A program below an import of the marker. -/
def importing (program : Program) : Program :=
  { program with body := markerImport :: program.body }

end Sample

theorem decorate_keeps_earlier_sites_sample :
    ∃ edited decorated, Sample.program.decorate ⟨1, 0⟩ = .ok (edited, decorated) ∧
      (edited.uses Sample.marker).take 3 = (Sample.program.uses Sample.marker).take 3 := by
  refine ⟨_, _, rfl, ?_⟩
  have hdecorate : Sample.program.decorate ⟨1, 0⟩ = .ok (_, _) := rfl
  exact (decorate_keeps_earlier_sites hdecorate Sample.marker).1

end MarkerExpansion
