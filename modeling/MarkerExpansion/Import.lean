import MarkerExpansion.Pattern.Matcher
import MarkerExpansion.Tree.Basic

/-!
Taking the imports of the marker out of a module.

An import is taken if it is of a module whose name matches and names the marker. All of its bindings
go with it, whether they are of the marker or not.
-/

namespace MarkerExpansion

/-- The name that the marker is exported under, and that calls of it are written with. -/
def markerName : String := "decorate"

/-- A name exported by a module and the symbol that it is bound to. -/
structure Binding where
  imported : String
  symbol : Symbol
  deriving DecidableEq

namespace ImportSpecifier

/-- The binding that a specifier makes at run time. Types and the module as a whole make none. -/
def binding? : ImportSpecifier → Option Binding
  | .named imported symbol false => some ⟨imported.getD symbol.name, symbol⟩
  | .named _ _ true => none
  | .default symbol => some ⟨"default", symbol⟩
  | .whole _ => none

/-- Whether a specifier names the marker. The default export does not count, whatever its name. -/
def namesMarker : ImportSpecifier → Bool
  | .named imported symbol false => imported.getD symbol.name = markerName
  | _ => false

end ImportSpecifier

namespace ImportDecl

/-- Whether an import brings the marker into scope from a module whose name matches `pattern`. -/
def bringsMarker (pattern : Pattern) (decl : ImportDecl) : Bool :=
  !decl.typeOnly && pattern.matchesText decl.source
    && decl.specifiers.any ImportSpecifier.namesMarker

def bindings (decl : ImportDecl) : List Binding :=
  decl.specifiers.filterMap ImportSpecifier.binding?

end ImportDecl

/-- The import that a node declares, if it brings the marker into scope. -/
def Node.markerImport? (pattern : Pattern) : Node → Option ImportDecl
  | .importDecl decl => if decl.bringsMarker pattern then some decl else none
  | _ => none

namespace Program

/-- The imports of a module that bring the marker into scope. A script has none. -/
def markerImports (pattern : Pattern) (program : Program) : List ImportDecl :=
  match program.kind with
  | .module => program.body.filterMap (Node.markerImport? pattern)
  | .script => []

/-- Takes the imports of the marker out of a program. Gives the bindings they made, or `none` if
there was no such import. -/
def takeImports (pattern : Pattern) (program : Program) : Option (List Binding) × Program :=
  match program.markerImports pattern with
  | [] => (none, program)
  | imports =>
    let body := program.body.filter fun item => (item.markerImport? pattern).isNone
    (some (imports.flatMap ImportDecl.bindings), { program with body })

end Program

end MarkerExpansion
