import Mathlib.Data.List.Basic
import MarkerExpansion.Proofs.Decoration.Edit
import MarkerExpansion.Proofs.Reference.Scan
import MarkerExpansion.Proofs.Tree.Sites

/-!
What a decoration does to the uses of a name.

A marker call takes its own name, its placeholders and its type arguments with it. Its other
arguments move past everything up to the initializer of the target, and the function that was there
is copied as often as there are placeholders. A use keeps its span and its kind on the way, although
its parents change; only the decorator, which was an argument, is called now.
-/

namespace MarkerExpansion

/-- What is noted down for a use, less its number. -/
abbrev Record := Span × ReferenceKind

def Reference.record (reference : Reference) : Record := (reference.span, reference.kind)

def Occurrence.record (occurrence : Occurrence) : Record :=
  (occurrence.ident.span, occurrence.kind)

/-- What is noted down for `symbol` on some visits. -/
def Visit.records (symbol : Symbol) (visits : List Visit) : List Record :=
  (visits.filter (names symbol)).map fun visit => (visit.node.span, visit.kind symbol)

/-- What a walk through a node alone notes down for `symbol`. -/
def Node.records (symbol : Symbol) (node : Node) : List Record :=
  ((node.scan symbol).run []).2.map Reference.record

/-- What is noted down for `symbol` at an identifier, by whether it is called. -/
def Ident.records (symbol : Symbol) (isCalled : Bool) (identifier : Ident) : List Record :=
  if identifier.symbol = symbol then
    [(identifier.span, if isCalled ∧ symbol.name = "decorate" then .call else .other)]
  else []

def Site.records (symbol : Symbol) (sites : List Site) : List Record :=
  sites.flatMap fun site => site.ident.records symbol site.isCallee

namespace Site

variable (symbol : Symbol)

@[simp] theorem records_nil : records symbol [] = [] := rfl

@[simp] theorem records_cons (site : Site) (sites : List Site) :
    records symbol (site :: sites) =
      site.ident.records symbol site.isCallee ++ records symbol sites :=
  List.flatMap_cons

@[simp] theorem records_append (left right : List Site) :
    records symbol (left ++ right) = records symbol left ++ records symbol right :=
  List.flatMap_append

end Site

@[simp] theorem Visit.records_append (symbol : Symbol) (left right : List Visit) :
    records symbol (left ++ right) = records symbol left ++ records symbol right := by
  simp [records]

/-- What is noted down is known from the site. -/
theorem Site.records_map_site (symbol : Symbol) (occurrences : List Occurrence) :
    records symbol (occurrences.map Occurrence.site) =
      (occurrences.filter (Occurrence.names symbol)).map Occurrence.record := by
  induction occurrences with
  | nil => rfl
  | cons occurrence occurrences ih =>
    rw [List.map_cons, records_cons, ih, List.filter_cons]
    by_cases hsymbol : occurrence.ident.symbol = symbol
    · have hnames : occurrence.names symbol := by simpa [Occurrence.names] using hsymbol
      subst hsymbol
      rw [if_pos hnames, List.map_cons, ← List.singleton_append]
      congr 1
      exact if_pos rfl
    · simp [Occurrence.names, Occurrence.site, Ident.records, hsymbol]

theorem map_record_usesFrom (symbol : Symbol) (start : Nat) (occurrences : List Occurrence) :
    (usesFrom symbol start occurrences).map Reference.record =
      Site.records symbol (occurrences.map Occurrence.site) := by
  rw [Site.records_map_site, usesFrom, List.map_map]
  conv_rhs => rw [← List.zipIdx_map_fst start (occurrences.filter _), List.map_map]
  rfl

namespace Visit

/-- The sites of the identifiers that are visited. -/
def sites (visits : List Visit) : List Site := (visits.filterMap occurrence?).map Occurrence.site

@[simp] theorem sites_append (left right : List Visit) :
    sites (left ++ right) = sites left ++ sites right := by
  simp [sites]

theorem sites_walk (context : Context) (node : Node) :
    sites (node.walk context) = node.sites context.around.isCallee := by
  simp [sites, Node.filterMap_walk]

theorem records_eq_sites (symbol : Symbol) (visits : List Visit) :
    records symbol visits = Site.records symbol (sites visits) := by
  rw [sites, Site.records_map_site, filter_filterMap_occurrence?, List.map_filterMap, records]
  refine (List.filterMap_eq_map_iff_forall_eq_some.2 fun visit hvisit => ?_).symm
  obtain ⟨occurrence, hoccurrence, huse⟩ := exists_occurrence (List.mem_filter.1 hvisit).2 0
  rw [hoccurrence]
  exact congrArg (some ∘ Reference.record) huse

end Visit

namespace Node

theorem records_eq_sites (symbol : Symbol) (node : Node) :
    node.records symbol = Site.records symbol (node.sites false) := by
  have halone : Surroundings.isCallee ⟨none, .absent, false⟩ = false := rfl
  rw [records, node.scans_scan symbol 0 halone []]
  simp [map_record_usesFrom]

theorem records_sitesOf (symbol : Symbol) (nodes : List Node) :
    Site.records symbol (sitesOf nodes) = nodes.flatMap (records symbol) := by
  induction nodes with
  | nil => rfl
  | cons node nodes ih => simp [ih, records_eq_sites]

theorem sites_stripParens (node : Node) : node.stripParens.sites false = node.sites false := by
  fun_induction stripParens node with
  | case1 span inner ih => simpa using ih
  | case2 => rfl

/-- Parentheses around a call change nothing about what is in it. -/
theorem sites_of_stripParens {expression : Node} {span : Span} {number : Nat} {callee : Ident}
    {arguments : List Node} {typeArguments : Option Node}
    (hplain : expression.stripParens =
      .call span number (.ident callee) arguments typeArguments) :
    expression.sites false =
      ⟨callee, true⟩ :: (sitesOf arguments ++ typeArguments.elim [] (sites false)) := by
  rw [← sites_stripParens, hplain]
  cases typeArguments <;> simp

end Node

theorem Declaration.sites_toNode (declaration : Declaration) (isCallee : Bool) :
    declaration.toNode.sites isCallee = Node.sitesOf declaration.declarators := by
  obtain ⟨exported, span, header, declarators⟩ := declaration
  cases exported <;> simp [toNode]

instance : DecidablePred StandsForTarget := fun _ => decidable_of_iff _ MarkerCall.isPlaceholder_iff

/-- The decorator gets a copy of the function for each placeholder. -/
theorem Filled.records_sitesOf {function : Node} {arguments filled : List Node} {count : Nat}
    (hfilled : Filled function arguments filled count) (symbol : Symbol) :
    Site.records symbol (Node.sitesOf filled) = arguments.flatMap fun argument =>
      if StandsForTarget argument then function.records symbol else argument.records symbol := by
  induction hfilled with
  | nil => rfl
  | placeholder hargument _ ih => simp [ih, hargument, Node.records_eq_sites]
  | passed hargument _ ih => simp [ih, hargument, Node.records_eq_sites]

/-- A walk through a program comes to what stands before a place, to the place and to what stands
after it. -/
theorem Visit.sites_of_walk_eq {program : Program} {before after : List Visit} {context : Context}
    {node : Node} (hwalk : program.walk = before ++ (node.walk context ++ after)) :
    sites before = context.before.map Occurrence.site ∧ sites after = context.sitesAfter := by
  obtain ⟨inside, hinside⟩ := node.exists_walk_eq_cons context
  have htrace := program.trace_walk
  rw [hwalk, hinside, List.cons_append] at htrace
  obtain ⟨hfill, hbefore⟩ := htrace.visit
  -- A place knows what was met before it. What comes after it is what is left of the whole.
  have hbeforeSites : sites before = context.before.map Occurrence.site := by
    rw [hbefore, List.nil_append, sites]
  have hsites : sites program.walk = context.before.map Occurrence.site
      ++ node.sites context.around.isCallee ++ context.sitesAfter := by
    rw [← context.map_site_fill node, hfill, sites, program.filterMap_walk]
  rw [hwalk, sites_append, sites_append, sites_walk, hbeforeSites, List.append_assoc] at hsites
  exact ⟨hbeforeSites, List.append_cancel_left (List.append_cancel_left hsites)⟩

/-- The place of a variable declaration after its `export`, if it has one. -/
def Declaration.place (declaration : Declaration) (outer : Context) : Context :=
  declaration.exported.elim outer fun span => .frame outer (.exportDeclaration span)

theorem Declaration.walk_infix (declaration : Declaration) (outer : Context) :
    (Node.varDecl declaration.span declaration.header declaration.declarators).walk
        (declaration.place outer) <:+:
      declaration.toNode.walk outer := by
  obtain ⟨exported, span, header, declarators⟩ := declaration
  cases exported with
  | none => exact List.infix_rfl
  | some exportSpan => exact Frame.walk_infix (.exportDeclaration exportSpan) outer _

@[simp] theorem Declaration.before_place (declaration : Declaration) (outer : Context) :
    (declaration.place outer).before = outer.before := by
  obtain ⟨exported, span, header, declarators⟩ := declaration
  cases exported <;> simp [place]

@[simp] theorem Declaration.sitesAfter_place (declaration : Declaration) (outer : Context) :
    (declaration.place outer).sitesAfter = outer.sitesAfter := by
  obtain ⟨exported, span, header, declarators⟩ := declaration
  cases exported <;> simp [place]

namespace Decorable

variable {program : Program} {slot : Slot} (site : Decorable program slot)

def statement : Node := .exprStmt site.span site.expression

/-- The place of the marker call. -/
def place : Context :=
  .item site.row site.left
    (site.target.before ++ site.target.declaration.toNode :: site.target.after)

/-- The place of the target. -/
def targetPlace : Context :=
  .item site.row (site.left ++ [site.statement] ++ site.target.before) site.target.after

/-- The place of the function that is decorated. -/
def initPlace : Context :=
  .frame (.item (.declarators (site.target.declaration.place site.targetPlace)
      site.target.declaration.span site.target.declaration.header) [] [])
    (.declaratorInit site.target.span site.target.definite site.target.pattern)

/-- The function that is decorated is a part of the target. -/
theorem walk_infix_target :
    site.target.init.walk site.initPlace <:+:
      site.target.declaration.toNode.walk site.targetPlace := by
  have hdeclaration := site.target.declaration.walk_infix site.targetPlace
  rw [site.declarators, Node.walk] at hdeclaration
  refine ((Frame.walk_infix _ _ _).trans (Node.walk_infix_row _ [] _ [])).trans ?_
  exact (List.suffix_cons _ _).isInfix.trans hdeclaration

/-- A walk comes to the marker call, and after it to the function that is decorated. -/
theorem exists_walk_eq :
    ∃ before between after, program.walk = before ++ site.statement.walk site.place ++ between
      ++ site.target.init.walk site.initPlace ++ after := by
  -- The row is walked through in one go: up to the call, on to the target, and there up to the
  -- function.
  obtain ⟨outside, behind, hrow⟩ := site.row.walk_infix site.items
  obtain ⟨left, hleft⟩ := Node.exists_walkRow_eq site.row [] site.left site.statement
    (site.target.before ++ site.target.declaration.toNode :: site.target.after)
  obtain ⟨middle, hmiddle⟩ := Node.exists_walkRow_eq site.row (site.left ++ [site.statement])
    site.target.before site.target.declaration.toNode site.target.after
  obtain ⟨head, tail, htarget⟩ := site.walk_infix_target
  have hitems : Node.walkRow site.row [] site.items = _ := hleft
  have hprogram : site.row.fill site.items = program := site.fill
  unfold targetPlace at htarget
  rw [hprogram, hitems, List.nil_append, hmiddle, ← htarget] at hrow
  simp only [List.append_assoc] at hrow
  exact ⟨outside ++ left, middle ++ head, _, by
    simpa only [place, List.append_assoc] using hrow.symm⟩

/-- The sites before the marker call, between it and the function, and after the function. -/
theorem sites_of_walk_eq {before between after : List Visit}
    (hwalk : program.walk = before ++ site.statement.walk site.place ++ between
      ++ site.target.init.walk site.initPlace ++ after) :
    Visit.sites before = site.row.before.map Occurrence.site ++ Node.sitesOf site.left ∧
      Visit.sites between = Node.sitesOf site.target.before ++ site.target.pattern.sites false ∧
      Visit.sites after = Node.sitesOf site.target.after ++ site.row.sitesAfter := by
  have hbefore : Visit.sites before =
      site.row.before.map Occurrence.site ++ Node.sitesOf site.left := by
    rw [List.append_assoc, List.append_assoc, List.append_assoc] at hwalk
    simpa [place] using (Visit.sites_of_walk_eq hwalk).1
  rw [List.append_assoc] at hwalk
  obtain ⟨hbetween, hafter⟩ := Visit.sites_of_walk_eq hwalk
  refine ⟨hbefore, ?_, by simpa [initPlace, targetPlace] using hafter⟩
  -- Of what is met before the function, the part up to the end of the call is known already.
  rw [Visit.sites_append, Visit.sites_append, Visit.sites_walk, hbefore] at hbetween
  simpa [initPlace, targetPlace, place, Surroundings.inside] using hbetween

theorem map_site_edited (arguments : List Node) :
    (site.edited arguments).occurrences.map Occurrence.site =
      site.row.before.map Occurrence.site ++ Node.sitesOf site.left
        ++ (Node.sitesOf site.target.before ++ site.target.pattern.sites false)
        ++ ⟨site.call.decorator, true⟩ :: Node.sitesOf arguments
        ++ (Node.sitesOf site.target.after ++ site.row.sitesAfter) := by
  rw [edited, Row.map_site_fill]
  simp [decorated, Declaration.sites_toNode]

/-- What goes with the marker call: the names of the marker and of the decorator, and what is in the
other arguments and in the type arguments. -/
theorem records_statement (symbol : Symbol) :
    Visit.records symbol (site.statement.walk site.place) =
      site.callee.records symbol true ++ site.call.decorator.records symbol false
        ++ site.call.arguments.flatMap (Node.records symbol)
        ++ site.typeArguments.elim [] (Node.records symbol) := by
  have hexpression := Node.sites_of_stripParens site.plain
  have htypeArguments : Site.records symbol (site.typeArguments.elim [] (Node.sites false)) =
      site.typeArguments.elim [] (Node.records symbol) := by
    cases site.typeArguments with
    | none => rfl
    | some typeArguments => exact (typeArguments.records_eq_sites symbol).symm
  rw [Visit.records_eq_sites, Visit.sites_walk, statement, Node.sites, hexpression]
  simp [htypeArguments, Node.records_sitesOf]

theorem records_init (symbol : Symbol) :
    Visit.records symbol (site.target.init.walk site.initPlace) =
      site.target.init.records symbol := by
  rw [Visit.records_eq_sites, Visit.sites_walk, Node.records_eq_sites]
  rfl

end Decorable

theorem Program.map_record_uses (program : Program) (symbol : Symbol) :
    (program.uses symbol).map Reference.record = Visit.records symbol program.walk := by
  rw [Visit.records_eq_sites, Visit.sites, program.filterMap_walk, ← map_record_usesFrom symbol 0]
  rfl

/-- The uses of every name are conserved by a decoration, except for those in the statement that is
removed. The decorator is called where the function was; what is in its arguments has moved there,
and what is in the function stands there once for each placeholder. -/
theorem decorate_conserves_uses {program edited : Program} {slot : Slot} {decorated : Decorated}
    (hdecorate : program.decorate slot = .ok (edited, decorated)) :
    ∃ (site : Decorable program slot) (before between after : List Visit),
      program.walk = before ++ site.statement.walk site.place ++ between
        ++ site.target.init.walk site.initPlace ++ after ∧
      ∀ symbol,
        let removed := Visit.records symbol (site.statement.walk site.place)
        let function := Visit.records symbol (site.target.init.walk site.initPlace)
        (program.uses symbol).map Reference.record =
            Visit.records symbol before ++ removed ++ Visit.records symbol between
              ++ function ++ Visit.records symbol after ∧
          removed = site.callee.records symbol true ++ site.call.decorator.records symbol false
            ++ site.call.arguments.flatMap (Node.records symbol)
            ++ site.typeArguments.elim [] (Node.records symbol) ∧
          (edited.uses symbol).map Reference.record =
            Visit.records symbol before ++ Visit.records symbol between
              ++ (site.call.decorator.records symbol true
                ++ site.call.arguments.flatMap fun argument =>
                  if StandsForTarget argument then function else argument.records symbol)
              ++ Visit.records symbol after ∧
          (edited.uses symbol).map Reference.ordinal = List.range (edited.uses symbol).length := by
  obtain ⟨site, arguments, hfilled, rfl, _⟩ := Program.exists_decorable_of_decorate hdecorate
  obtain ⟨before, between, after, hwalk⟩ := site.exists_walk_eq
  obtain ⟨hbefore, hbetween, hafter⟩ := site.sites_of_walk_eq hwalk
  refine ⟨site, before, between, after, hwalk, fun symbol => ⟨?_, ?_, ?_, ?_⟩⟩
  · rw [program.map_record_uses, hwalk]
    simp only [Visit.records_append]
  · exact site.records_statement symbol
  · rw [Program.uses_eq_usesFrom, map_record_usesFrom, site.map_site_edited, ← hbefore, ← hbetween,
      ← hafter]
    simp only [Site.records_append, Site.records_cons, Visit.records_eq_sites symbol before,
      Visit.records_eq_sites symbol between, Visit.records_eq_sites symbol after,
      hfilled.records_sitesOf, site.records_init]
  · rw [Program.uses_eq_usesFrom, map_ordinal_usesFrom, length_usesFrom, List.range_eq_range']

theorem decorate_conserves_uses_sample :
    ∃ edited decorated, Sample.program.decorate ⟨0, 0⟩ = .ok (edited, decorated) ∧
      ∃ (site : Decorable Sample.program ⟨0, 0⟩) (before between after : List Visit),
        Sample.program.walk = before ++ site.statement.walk site.place ++ between
          ++ site.target.init.walk site.initPlace ++ after ∧
        let function := Visit.records Sample.marker (site.target.init.walk site.initPlace)
        (edited.uses Sample.marker).map Reference.record =
          Visit.records Sample.marker before ++ Visit.records Sample.marker between
            ++ (site.call.decorator.records Sample.marker true
              ++ site.call.arguments.flatMap fun argument =>
                if StandsForTarget argument then function else argument.records Sample.marker)
            ++ Visit.records Sample.marker after ∧
        (edited.uses Sample.marker).map Reference.ordinal = [0, 1, 2] := by
  have hdecorate : Sample.program.decorate ⟨0, 0⟩ = .ok (_, _) := rfl
  obtain ⟨site, before, between, after, hwalk, huses⟩ := decorate_conserves_uses hdecorate
  obtain ⟨_, _, hrecords, _⟩ := huses Sample.marker
  exact ⟨_, _, hdecorate, site, before, between, after, hwalk, hrecords, rfl⟩

end MarkerExpansion
