import MarkerExpansion.Reference
import MarkerExpansion.Proofs.Tree.Walk

/-!
The sites of references.

A reference is a number in the list of what a walk meets, so all that is said of it is settled once
the walk has come to its site: programs that agree up to there agree on the reference.
-/

namespace MarkerExpansion

/-- Whether an occurrence is of `symbol`. -/
def Occurrence.names (symbol : Symbol) (occurrence : Occurrence) : Bool :=
  occurrence.ident.symbol = symbol

/-- The uses of `symbol` among some occurrences, numbered from `start` on. -/
def usesFrom (symbol : Symbol) (start : Nat) (occurrences : List Occurrence) : List Reference :=
  ((occurrences.filter (Occurrence.names symbol)).zipIdx start).map fun (occurrence, ordinal) =>
    { symbol, ordinal, span := occurrence.ident.span, kind := occurrence.kind }

theorem usesFrom_append (symbol : Symbol) (start : Nat) (left right : List Occurrence) :
    usesFrom symbol start (left ++ right) = usesFrom symbol start left
      ++ usesFrom symbol (start + left.countP (Occurrence.names symbol)) right := by
  simp [usesFrom, List.zipIdx_append, List.countP_eq_length_filter]

theorem length_usesFrom (symbol : Symbol) (start : Nat) (occurrences : List Occurrence) :
    (usesFrom symbol start occurrences).length =
      occurrences.countP (Occurrence.names symbol) := by
  simp [usesFrom, List.countP_eq_length_filter]

namespace Program

theorem uses_eq_usesFrom (program : Program) (symbol : Symbol) :
    program.uses symbol = usesFrom symbol 0 program.occurrences := rfl

/-- The first uses of a symbol are those among what a walk meets first. -/
theorem take_uses {program : Program} {met : List Occurrence} (hmet : met <+: program.occurrences)
    (symbol : Symbol) :
    (program.uses symbol).take (met.countP (Occurrence.names symbol)) = usesFrom symbol 0 met := by
  obtain ⟨rest, hrest⟩ := hmet
  rw [uses_eq_usesFrom, ← hrest, usesFrom_append, List.take_left' (length_usesFrom symbol 0 met)]

theorem getElem?_occurrencesOf {program : Program} {met : List Occurrence}
    (hmet : met <+: program.occurrences) {symbol : Symbol} {ordinal : Nat}
    (hordinal : ordinal < met.countP (Occurrence.names symbol)) :
    (program.occurrencesOf symbol)[ordinal]? =
      (met.filter (Occurrence.names symbol))[ordinal]? := by
  obtain ⟨rest, hrest⟩ := hmet
  rw [List.countP_eq_length_filter] at hordinal
  change (program.occurrences.filter (Occurrence.names symbol))[ordinal]? = _
  rw [← hrest, List.filter_append, List.getElem?_append_left hordinal]

/-- The statement around a reference is settled when a walk has met its site. -/
theorem enclosingStatement_congr {program other : Program} {met : List Occurrence}
    (hprogram : met <+: program.occurrences) (hother : met <+: other.occurrences)
    {reference : Reference}
    (hordinal : reference.ordinal < met.countP (Occurrence.names reference.symbol)) :
    other.enclosingStatement reference = program.enclosingStatement reference := by
  have hsite : (other.occurrencesOf reference.symbol)[reference.ordinal]? =
      (program.occurrencesOf reference.symbol)[reference.ordinal]? :=
    (getElem?_occurrencesOf hother hordinal).trans (getElem?_occurrencesOf hprogram hordinal).symm
  unfold enclosingStatement
  rw [hsite]

end Program

end MarkerExpansion
