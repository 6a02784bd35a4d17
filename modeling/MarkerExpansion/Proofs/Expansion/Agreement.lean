import MarkerExpansion.Proofs.Decoration.Earlier
import MarkerExpansion.Proofs.Expansion.Simulation

/-!
Expansion by references and expansion from the inside out.

An expansion never follows the tree: it goes through references that were numbered before the first
change, and looks each of them up in the program that the ones before have left.
-/

namespace MarkerExpansion

end MarkerExpansion
