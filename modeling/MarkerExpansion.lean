import MarkerExpansion.Expansion
import MarkerExpansion.Json.Writer
import MarkerExpansion.Tree.OfJson
import MarkerExpansion.Tree.ToJson
import MarkerExpansion.Proofs.Tree.Context
import MarkerExpansion.Proofs.Tree.Walk
import MarkerExpansion.Proofs.Tree.Address
import MarkerExpansion.Proofs.Tree.Replacement
import MarkerExpansion.Proofs.Decoration.Place
import MarkerExpansion.Proofs.Reference.Site
import MarkerExpansion.Proofs.Decoration.Earlier
import MarkerExpansion.Proofs.Expansion.Direct
import MarkerExpansion.Proofs.Decoration.Outline
import MarkerExpansion.Proofs.Expansion.Verdict
import MarkerExpansion.Proofs.Expansion.Attempt
import MarkerExpansion.Proofs.Expansion.Run
import MarkerExpansion.Proofs.Expansion.Simulation
import MarkerExpansion.Proofs.Expansion.Agreement
import MarkerExpansion.Proofs.Expansion.Judgement
import MarkerExpansion.Proofs.Reference.Address
import MarkerExpansion.Proofs.Expansion.Again
import MarkerExpansion.Proofs.Reference.Past
import MarkerExpansion.Proofs.Reference.Listing
import MarkerExpansion.Proofs.Expansion.Pending
import MarkerExpansion.Proofs.Expansion.Consumed
import MarkerExpansion.Proofs.Expansion.Leftover
import MarkerExpansion.Proofs.Tree.Sites
import MarkerExpansion.Proofs.Decoration.Edit
import MarkerExpansion.Proofs.Expansion.Survival
import MarkerExpansion.Proofs.Decoration.InPlace
import MarkerExpansion.Proofs.Expansion.Rules
import MarkerExpansion.Proofs.Reference.Locate
import MarkerExpansion.Proofs.Reference.Nearest
import MarkerExpansion.Proofs.Reference.Scan
import MarkerExpansion.Proofs.Decoration.Conservation
import MarkerExpansion.Proofs.Import.Taking
import MarkerExpansion.Proofs.Config.DefaultPattern
import MarkerExpansion.Proofs.Config.Text
