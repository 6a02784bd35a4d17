import MarkerExpansion.Config
import MarkerExpansion.Decoration
import MarkerExpansion.Reference

/-!
Expanding the marker calls of a program.

The calls are carried out from the last to the first, one after the other, and the first error ends
the expansion. What was done before it stays done.
-/

namespace MarkerExpansion

/-- The outcome of an expansion. -/
structure Expansion where
  /-- The program that the expansion leaves. -/
  program : Program
  /-- What the marker calls did, in the order in which they were carried out. -/
  decorated : List Decorated := []
  /-- Why the expansion ended before its last call. -/
  failure : Option Error := none

namespace Program

/-- Carries out the marker call at a reference. -/
def decorateReference (program : Program) (reference : Reference) :
    Except Error (Program × Decorated) := do
  program.decorate (← program.enclosingStatement reference)

/-- Carries out the marker calls at some references, in their order. -/
def decorateAll (program : Program) : List Reference → Expansion
  | [] => { program }
  | reference :: references =>
    match program.decorateReference reference with
    | .error error => { program, failure := some error }
    | .ok (program, decorated) =>
      let rest := program.decorateAll references
      { rest with decorated := decorated :: rest.decorated }

/-- Expands all marker calls among the references. -/
def expand (program : Program) (references : References) : Expansion :=
  match references.markerCalls with
  | .error error => { program, failure := some error }
  | .ok calls => program.decorateAll calls

/-- The program with all marker calls expanded, or the error that stopped the expansion. -/
def transform (program : Program) (references : References) : Except Error Program :=
  let expansion := program.expand references
  match expansion.failure with
  | none => .ok expansion.program
  | some error => .error error

/-- Takes the imports of the marker out of a program and expands the calls of what they bound. A
program without such imports stays as it is. -/
def expandImports (program : Program) (config : Config) : Expansion :=
  match config.pattern with
  | .error error => { program, failure := some error }
  | .ok pattern =>
    match program.takeImports pattern with
    | (none, _) => { program }
    | (some bindings, program) => program.expand (program.references bindings)

/-- The whole pass over a program under the default configuration: the program that it leaves, and
the report of what went wrong. -/
def process (program : Program) : Program × List Diagnostic :=
  let expansion := program.expandImports .default
  (expansion.program, (expansion.failure.map Error.diagnostic).toList)

end Program

end MarkerExpansion
