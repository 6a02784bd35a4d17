import MarkerExpansion.Error
import MarkerExpansion.Import
import MarkerExpansion.Tree.Occurrence

/-!
References: the places where imported names are used.

A tree has no links to parents, so a reference is addressed by its number among the occurrences of
its symbol. Its span tells whether the tree still has the same identifier there.
-/

namespace MarkerExpansion

inductive ReferenceKind where
  /-- The callee of a call, under the name of the marker. -/
  | call
  | other
  deriving DecidableEq

/-- One use of a binding. -/
structure Reference where
  symbol : Symbol
  /-- How many occurrences of the symbol come before. -/
  ordinal : Nat
  span : Span
  kind : ReferenceKind
  deriving DecidableEq

/-- The uses of each imported name. -/
abbrev References := List (String × List Reference)

/-- A renamed marker is not called under its name, so that a call of it is no marker call. -/
def Occurrence.kind (occurrence : Occurrence) : ReferenceKind :=
  if occurrence.isCallee ∧ occurrence.ident.symbol.name = markerName then .call else .other

namespace References

/-- Puts further uses at the end of those of `name`. -/
def extend (name : String) (uses : List Reference) : References → References
  | [] => [(name, uses)]
  | (key, earlier) :: rest =>
    if key = name then (key, earlier ++ uses) :: rest else (key, earlier) :: extend name uses rest

/-- The uses of `name`, if it was imported. -/
def get? (references : References) (name : String) : Option (List Reference) :=
  references.lookup name

/-- The marker calls, last one first. -/
def markerCalls (references : References) : Except Error (List Reference) :=
  match references.get? markerName with
  | none => .error { span := .dummy, cause := .notImported }
  | some uses => .ok (uses.reverse.filter fun use => use.kind = .call)

end References

namespace Program

/-- The occurrences of a symbol, in the order of a walk. -/
def occurrencesOf (program : Program) (symbol : Symbol) : List Occurrence :=
  program.occurrences.filter fun occurrence => occurrence.ident.symbol = symbol

/-- The uses of a symbol, in the order of a walk. -/
def uses (program : Program) (symbol : Symbol) : List Reference :=
  (program.occurrencesOf symbol).zipIdx.map fun (occurrence, ordinal) =>
    { symbol, ordinal, span := occurrence.ident.span, kind := occurrence.kind }

/-- The uses of each binding, under the name that it was imported by. A name that is not used has
the empty list. -/
def references (program : Program) (bindings : List Binding) : References :=
  bindings.foldl (fun references binding =>
    references.extend binding.imported (program.uses binding.symbol)) []

/-- The slot of the expression statement around a reference. -/
def enclosingStatement (program : Program) (reference : Reference) : Except Error Slot :=
  match (program.occurrencesOf reference.symbol)[reference.ordinal]? with
  | none => .error ⟨reference.span, .notFound⟩
  | some occurrence =>
    let span := occurrence.ident.span
    if span ≠ reference.span then .error ⟨span, .notFound⟩
    else
      match occurrence.anchor with
      | .absent => .error ⟨span, .noStatement⟩
      | .loose => .error ⟨span, .outsideBlock⟩
      | .at slot => .ok slot

end Program

end MarkerExpansion
