import MarkerExpansion.Proofs.Tree.Context

/-!
Identifiers without their addresses.

What a walk notes down for an identifier tells where the statement around it stands, and that
changes when something before it comes or goes. The site of an identifier is what is left: it moves
along with the node that it is in.
-/

namespace MarkerExpansion

/-- An identifier, and whether it is the callee of a call. -/
structure Site where
  ident : Ident
  isCallee : Bool
  deriving DecidableEq

def Occurrence.site (occurrence : Occurrence) : Site := ⟨occurrence.ident, occurrence.isCallee⟩

namespace Node

mutual

/-- The sites in a node, in the order of a walk. -/
@[simp] def sites (isCallee : Bool) : Node → List Site
  | .ident identifier => [⟨identifier, isCallee⟩]
  | .binder identifier none => [⟨identifier, false⟩]
  | .binder identifier (some typing) => ⟨identifier, false⟩ :: typing.sites false
  | .word _ _ => []
  | .call _ _ callee arguments none => callee.sites true ++ sitesOf arguments
  | .call _ _ callee arguments (some typeArguments) =>
    callee.sites true ++ sitesOf arguments ++ typeArguments.sites false
  | .argument _ value => value.sites false
  | .member _ object property => object.sites false ++ property.sites false
  | .paren _ inner => inner.sites false
  | .exprStmt _ expression => expression.sites false
  | .varDecl _ _ declarators => sitesOf declarators
  | .declarator _ _ pattern none => pattern.sites false
  | .declarator _ _ pattern (some init) => pattern.sites false ++ init.sites false
  | .exportDecl _ declaration => declaration.sites false
  | .importDecl _ => []
  | .block _ _ items => sitesOf items
  | .switchCase _ none items => sitesOf items
  | .switchCase _ (some test) items => test.sites false ++ sitesOf items
  | .other _ children => sitesOf children

/-- The sites in several nodes in a row. -/
@[simp] def sitesOf : List Node → List Site
  | [] => []
  | node :: nodes => node.sites false ++ sitesOf nodes

end

@[simp] theorem sitesOf_append (left right : List Node) :
    sitesOf (left ++ right) = sitesOf left ++ sitesOf right := by
  induction left with
  | nil => simp
  | cons node left ih => simp [ih]

theorem mem_sitesOf {site : Site} {nodes : List Node} :
    site ∈ sitesOf nodes ↔ ∃ node ∈ nodes, site ∈ node.sites false := by
  induction nodes with
  | nil => simp
  | cons node nodes ih => simp [ih]

mutual

/-- The sites are what a walk notes down, less the addresses. -/
@[simp] theorem map_site_occurrences (first : Nat) (around : Surroundings) : ∀ node : Node,
    (node.occurrences first around).map Occurrence.site = node.sites around.isCallee
  | .ident identifier => by simp [occurrences, Occurrence.site]
  | .binder identifier none => by simp [occurrences, Occurrence.site]
  | .binder identifier (some typing) => by
    simp [occurrences, Occurrence.site, map_site_occurrences _ _ typing, Surroundings.inside]
  | .word span name => by simp [occurrences]
  | .call span number callee arguments none => by
    simp [occurrences, map_site_occurrences _ _ callee, map_site_occurrencesOf _ _ _ _ arguments,
      Surroundings.callee]
  | .call span number callee arguments (some typeArguments) => by
    simp [occurrences, map_site_occurrences _ _ callee, map_site_occurrencesOf _ _ _ _ arguments,
      map_site_occurrences _ _ typeArguments, Surroundings.callee, Surroundings.inside]
  | .argument spread value => by
    simp [occurrences, map_site_occurrences _ _ value, Surroundings.inside]
  | .member span object property => by
    simp [occurrences, map_site_occurrences _ _ object, map_site_occurrences _ _ property,
      Surroundings.inside]
  | .paren span inner => by
    simp [occurrences, map_site_occurrences _ _ inner, Surroundings.inside]
  | .exprStmt span expression => by
    simp [occurrences, map_site_occurrences _ _ expression, Surroundings.statement]
  | .varDecl span header declarators => by
    simp [occurrences, map_site_occurrencesOf _ _ _ _ declarators]
  | .declarator span definite pattern none => by
    simp [occurrences, map_site_occurrences _ _ pattern, Surroundings.inside]
  | .declarator span definite pattern (some init) => by
    simp [occurrences, map_site_occurrences _ _ pattern, map_site_occurrences _ _ init,
      Surroundings.inside]
  | .exportDecl span declaration => by
    simp [occurrences, map_site_occurrences _ _ declaration, Surroundings.inside]
  | .importDecl decl => by simp [occurrences]
  | .block span kind items => by simp [occurrences, map_site_occurrencesOf _ _ _ _ items]
  | .switchCase span none items => by
    simp [occurrences, map_site_occurrencesOf _ _ _ _ items]
  | .switchCase span (some test) items => by
    simp [occurrences, map_site_occurrences _ _ test, map_site_occurrencesOf _ _ _ _ items,
      Surroundings.inside]
  | .other form children => by simp [occurrences, map_site_occurrencesOf _ _ _ _ children]

@[simp] theorem map_site_occurrencesOf (container : Option Nat) (index first : Nat)
    (anchor : Anchor) : ∀ nodes : List Node,
      (occurrencesOf container index first anchor nodes).map Occurrence.site = sitesOf nodes
  | [] => by simp [occurrencesOf]
  | node :: nodes => by
    simp [occurrencesOf, map_site_occurrences _ _ node, map_site_occurrencesOf _ _ _ _ nodes]

end

end Node

/-- The sites in a node that come after its hole. -/
@[simp] def Frame.sitesAfter : Frame → List Site
  | .callCallee _ _ arguments none => Node.sitesOf arguments
  | .callCallee _ _ arguments (some typeArguments) =>
    Node.sitesOf arguments ++ typeArguments.sites false
  | .memberObject _ property => property.sites false
  | .declaratorPattern _ _ (some init) => init.sites false
  | .switchTest _ items => Node.sitesOf items
  | _ => []

mutual

/-- The sites that come after a place. -/
@[simp] def Context.sitesAfter : Context → List Site
  | .frame outer frame => frame.sitesAfter ++ outer.sitesAfter
  | .item row _ right => Node.sitesOf right ++ row.sitesAfter

/-- The sites that come after the nodes of a row. -/
@[simp] def Row.sitesAfter : Row → List Site
  | .body .. => []
  | .block outer .. => outer.sitesAfter
  | .branch outer .. => outer.sitesAfter
  | .arguments outer _ _ _ none => outer.sitesAfter
  | .arguments outer _ _ _ (some typeArguments) => typeArguments.sites false ++ outer.sitesAfter
  | .declarators outer .. => outer.sitesAfter
  | .children outer .. => outer.sitesAfter

end

theorem Frame.sites_fill (frame : Frame) (node : Node) (first : Nat) (around : Surroundings) :
    (frame.fill node).sites around.isCallee =
      (frame.before first around).map Occurrence.site
        ++ node.sites (frame.around around).isCallee ++ frame.sitesAfter := by
  cases frame with
  | callCallee span number arguments typeArguments =>
    cases typeArguments <;> simp [Surroundings.callee]
  | declaratorPattern span definite init => cases init <;> simp [Surroundings.inside]
  | _ => simp [Surroundings.inside, Surroundings.callee, Surroundings.statement, Occurrence.site]

mutual

/-- The sites in a program are those before a place, those at it and those after it. -/
theorem Context.map_site_fill (node : Node) : ∀ context : Context,
    (context.fill node).occurrences.map Occurrence.site =
      context.before.map Occurrence.site ++ node.sites context.around.isCallee
        ++ context.sitesAfter
  | .frame outer frame => by
    have houter := outer.map_site_fill (frame.fill node)
    rw [frame.sites_fill node outer.first outer.around] at houter
    simpa using houter
  | .item row left right => by simpa using row.map_site_fill (left ++ node :: right)

theorem Row.map_site_fill (nodes : List Node) : ∀ row : Row,
    (row.fill nodes).occurrences.map Occurrence.site =
      row.before.map Occurrence.site ++ Node.sitesOf nodes ++ row.sitesAfter
  | .body kind span interpreter => by simp [Program.occurrences]
  | .block outer span kind => by simpa using outer.map_site_fill (.block span kind nodes)
  | .branch outer span none => by simpa using outer.map_site_fill (.switchCase span none nodes)
  | .branch outer span (some test) => by
    simpa [Surroundings.inside] using outer.map_site_fill (.switchCase span (some test) nodes)
  | .arguments outer span number callee none => by
    simpa [Surroundings.callee] using outer.map_site_fill (.call span number callee nodes none)
  | .arguments outer span number callee (some typeArguments) => by
    simpa [Surroundings.callee]
      using outer.map_site_fill (.call span number callee nodes (some typeArguments))
  | .declarators outer span header => by
    simpa using outer.map_site_fill (.varDecl span header nodes)
  | .children outer form => by simpa using outer.map_site_fill (.other form nodes)

end

end MarkerExpansion
