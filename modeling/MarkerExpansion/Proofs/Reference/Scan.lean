import MarkerExpansion.Proofs.Reference.Listing

/-!
Looking for references.

Here the uses of a symbol are collected one by one, by a walk that appends to a list what it comes
to. It has a rule of its own for calls: a callee is noted down at the call, and the walk does not
come to it again. All the same every identifier is noted down once, in the order in which nodes are
visited, and it is known to be a callee exactly where it is one.
-/

namespace MarkerExpansion

/-- A walk that notes down uses, after those that were noted down before. -/
abbrev Scan := StateM (List Reference) Unit

namespace Scan

/-- Notes down a use of `symbol`, under the next number. -/
def record (symbol : Symbol) (span : Span) (kind : ReferenceKind) : Scan :=
  modify fun uses => uses ++ [{ symbol, ordinal := uses.length, span, kind }]

/-- Comes to an identifier that no rule for calls applies to. -/
def identifier (symbol : Symbol) (identifier : Ident) : Scan :=
  if identifier.symbol = symbol then record symbol identifier.span .other else pure ()

/-- Comes to a call. If it calls `symbol`, the callee is noted down, and otherwise the callee is
walked through like any other node. -/
def callee (symbol : Symbol) (callee : Node) (walk : Scan) : Scan :=
  match callee with
  | .ident identifier =>
    if identifier.symbol = symbol then
      record symbol identifier.span (if symbol.name = markerName then .call else .other)
    else walk
  | _ => walk

end Scan

namespace Node

mutual

/-- Walks through a node and notes down the uses of `symbol`. -/
def scan (symbol : Symbol) : Node → Scan
  | .ident identifier => Scan.identifier symbol identifier
  | .binder identifier none => Scan.identifier symbol identifier
  | .binder identifier (some typing) => do
    Scan.identifier symbol identifier
    typing.scan symbol
  | .word _ _ => pure ()
  | .call _ _ callee arguments none => do
    Scan.callee symbol callee (callee.scan symbol)
    scanEach symbol arguments
  | .call _ _ callee arguments (some typeArguments) => do
    Scan.callee symbol callee (callee.scan symbol)
    scanEach symbol arguments
    typeArguments.scan symbol
  | .argument _ value => value.scan symbol
  | .member _ object property => do
    object.scan symbol
    property.scan symbol
  | .paren _ inner => inner.scan symbol
  | .exprStmt _ expression => expression.scan symbol
  | .varDecl _ _ declarators => scanEach symbol declarators
  | .declarator _ _ pattern none => pattern.scan symbol
  | .declarator _ _ pattern (some init) => do
    pattern.scan symbol
    init.scan symbol
  | .exportDecl _ declaration => declaration.scan symbol
  | .importDecl _ => pure ()
  | .block _ _ items => scanEach symbol items
  | .switchCase _ none items => scanEach symbol items
  | .switchCase _ (some test) items => do
    test.scan symbol
    scanEach symbol items
  | .other _ children => scanEach symbol children

/-- Walks through several nodes in a row. -/
def scanEach (symbol : Symbol) : List Node → Scan
  | [] => pure ()
  | node :: nodes => do
    node.scan symbol
    scanEach symbol nodes

end

end Node

/-- The uses of a symbol that a walk through a program notes down. -/
def Program.scan (program : Program) (symbol : Symbol) : List Reference :=
  ((Node.scanEach symbol program.body).run []).2

/-- A walk that notes down what there is of `symbol` among `occurrences`, whatever was noted down
before. -/
def Scans (symbol : Symbol) (scan : Scan) (occurrences : List Occurrence) : Prop :=
  ∀ uses, scan.run uses = ((), uses ++ usesFrom symbol uses.length occurrences)

namespace Scans

variable {symbol : Symbol}

/-- Where the symbol does not occur, there is nothing to note down. -/
theorem nothing {occurrences : List Occurrence}
    (hnone : ∀ occurrence ∈ occurrences, occurrence.ident.symbol ≠ symbol) :
    Scans symbol (pure ()) occurrences := by
  intro uses
  have hfilter : occurrences.filter (Occurrence.names symbol) = [] := by
    simpa [List.filter_eq_nil_iff, Occurrence.names] using hnone
  rw [usesFrom, hfilter, List.zipIdx_nil, List.map_nil, List.append_nil]
  rfl

theorem append {scan next : Scan} {left right : List Occurrence} (hscan : Scans symbol scan left)
    (hnext : Scans symbol next right) :
    Scans symbol (do scan; next) (left ++ right) := by
  intro uses
  rw [StateT.run_bind, hscan]
  refine (hnext _).trans ?_
  rw [usesFrom_append, List.length_append, length_usesFrom, List.append_assoc]

theorem record {occurrence : Occurrence} (hsymbol : occurrence.ident.symbol = symbol) :
    Scans symbol (Scan.record symbol occurrence.ident.span occurrence.kind) [occurrence] := by
  intro uses
  have huse : usesFrom symbol uses.length [occurrence] =
      [⟨symbol, uses.length, occurrence.ident.span, occurrence.kind⟩] := by
    simp [usesFrom, Occurrence.names, hsymbol]
  rw [huse]
  rfl

theorem identifier (identifier : Ident) (anchor : Anchor) :
    Scans symbol (Scan.identifier symbol identifier) [⟨identifier, false, anchor⟩] := by
  have hrecord := @record symbol ⟨identifier, false, anchor⟩
  unfold Scan.identifier
  by_cases hsymbol : identifier.symbol = symbol
  · rw [if_pos hsymbol]
    exact hrecord hsymbol
  · rw [if_neg hsymbol]
    exact nothing (by simpa using hsymbol)

/-- The rule for calls finds the callee where the walk would find it, and knows it for one. -/
theorem callee {callee : Node} {first : Nat} {around : Surroundings}
    (hcallee : Scans symbol (callee.scan symbol) (callee.occurrences first around.inside)) :
    Scans symbol (Scan.callee symbol callee (callee.scan symbol))
      (callee.occurrences first around.callee) := by
  cases callee with
  | ident identifier =>
    rw [Node.occurrences, Node.scan, Scan.identifier]
    simp only [Scan.callee]
    by_cases hsymbol : identifier.symbol = symbol
    · have hrecord := @record symbol ⟨identifier, true, around.anchor⟩ hsymbol
      simpa [hsymbol, Occurrence.kind, Surroundings.callee] using hrecord
    · rw [if_neg hsymbol, if_neg hsymbol]
      exact nothing (by simpa using hsymbol)
  | binder identifier typing => cases typing <;> exact hcallee
  | call span number callee arguments typeArguments => cases typeArguments <;> exact hcallee
  | declarator span definite pattern init => cases init <;> exact hcallee
  | switchCase span test items => cases test <;> exact hcallee
  | _ => exact hcallee

end Scans

namespace Node

mutual

/-- The walk through a node notes down the occurrences in it. -/
theorem scans_scan (symbol : Symbol) (first : Nat) {around : Surroundings}
    (haround : around.isCallee = false) : ∀ node : Node,
    Scans symbol (node.scan symbol) (node.occurrences first around)
  | .ident identifier => by
    simpa [scan, occurrences, haround] using Scans.identifier identifier around.anchor
  | .binder identifier none => by
    simpa [scan, occurrences] using Scans.identifier identifier around.anchor
  | .binder identifier (some typing) => by
    simpa [scan, occurrences] using
      (Scans.identifier identifier around.anchor).append (scans_scan symbol _ rfl typing)
  | .word span name => by simpa [scan, occurrences] using Scans.nothing (by simp)
  | .call span number callee arguments none => by
    simpa [scan, occurrences] using
      (Scans.callee (scans_scan symbol _ rfl callee)).append
        (scans_scanEach symbol _ _ _ _ arguments)
  | .call span number callee arguments (some typeArguments) => by
    simpa [scan, occurrences] using
      (Scans.callee (scans_scan symbol _ rfl callee)).append
        ((scans_scanEach symbol _ _ _ _ arguments).append (scans_scan symbol _ rfl typeArguments))
  | .argument spread value => by
    simpa [scan, occurrences] using scans_scan symbol first rfl value
  | .member span object property => by
    simpa [scan, occurrences] using
      (scans_scan symbol _ rfl object).append (scans_scan symbol _ rfl property)
  | .paren span inner => by simpa [scan, occurrences] using scans_scan symbol first rfl inner
  | .exprStmt span expression => by
    simpa [scan, occurrences] using scans_scan symbol first rfl expression
  | .varDecl span header declarators => by
    simpa [scan, occurrences] using scans_scanEach symbol _ _ _ _ declarators
  | .declarator span definite pattern none => by
    simpa [scan, occurrences] using scans_scan symbol first rfl pattern
  | .declarator span definite pattern (some init) => by
    simpa [scan, occurrences] using
      (scans_scan symbol _ rfl pattern).append (scans_scan symbol _ rfl init)
  | .exportDecl span declaration => by
    simpa [scan, occurrences] using scans_scan symbol first rfl declaration
  | .importDecl decl => by simpa [scan, occurrences] using Scans.nothing (by simp)
  | .block span kind items => by
    simpa [scan, occurrences] using scans_scanEach symbol _ _ _ _ items
  | .switchCase span none items => by
    simpa [scan, occurrences] using scans_scanEach symbol _ _ _ _ items
  | .switchCase span (some test) items => by
    simpa [scan, occurrences] using
      (scans_scan symbol _ rfl test).append (scans_scanEach symbol _ _ _ _ items)
  | .other form children => by
    simpa [scan, occurrences] using scans_scanEach symbol _ _ _ _ children

theorem scans_scanEach (symbol : Symbol) (container : Option Nat) (index first : Nat)
    (anchor : Anchor) : ∀ nodes : List Node,
    Scans symbol (scanEach symbol nodes) (occurrencesOf container index first anchor nodes)
  | [] => by simpa [scanEach, occurrencesOf] using Scans.nothing (by simp)
  | node :: nodes => by
    simpa [scanEach, occurrencesOf] using
      (scans_scan symbol _ rfl node).append (scans_scanEach symbol _ _ _ _ nodes)

end

end Node

/-- What the walk notes down are the uses of the symbol. -/
theorem Program.scan_eq_uses (program : Program) (symbol : Symbol) :
    program.scan symbol = program.uses symbol := by
  have hscan := Node.scans_scanEach symbol (some 0) 0 1 .absent program.body []
  rw [scan, hscan, uses_eq_usesFrom]
  rfl

/-- Whether a visit is to an identifier that is called: it is the callee of a call, in no
parentheses. -/
def Visit.isCalled (visit : Visit) : Bool :=
  match visit.context, visit.node with
  | .frame _ (.callCallee ..), .ident _ => true
  | _, _ => false

/-- What a visit to `symbol` uses it for. -/
def Visit.kind (symbol : Symbol) (visit : Visit) : ReferenceKind :=
  if visit.isCalled ∧ symbol.name = "decorate" then .call else .other

/-- The use of `symbol` that a visit is, under its number among those visits. -/
def Visit.use (symbol : Symbol) (ordinal : Nat) (visit : Visit) : Reference where
  symbol := symbol
  ordinal := ordinal
  span := visit.node.span
  kind := visit.kind symbol

/-- The visits of a walk to identifiers with `symbol`. -/
def Program.visitsTo (program : Program) (symbol : Symbol) : List Visit :=
  program.walk.filter (Visit.names symbol)

theorem Context.isCallee_around (context : Context) (identifier : Ident) :
    context.around.isCallee = Visit.isCalled ⟨context, .ident identifier⟩ := by
  cases context with
  | frame outer frame => cases frame <;> rfl
  | item row left right => rfl

/-- A visit to an identifier with the symbol is noted down as what it is. -/
theorem Visit.exists_occurrence {symbol : Symbol} {visit : Visit} (hnames : visit.names symbol)
    (ordinal : Nat) :
    ∃ occurrence, visit.occurrence? = some occurrence ∧
      Reference.mk symbol ordinal occurrence.ident.span occurrence.kind =
        visit.use symbol ordinal := by
  obtain ⟨context, node⟩ := visit
  cases node with
  | ident identifier =>
    have hsymbol : identifier.symbol = symbol := by simpa [names, Occurrence.names] using hnames
    refine ⟨_, rfl, ?_⟩
    simp only [use, kind, Occurrence.kind, hsymbol, context.isCallee_around identifier, Node.span]
    rfl
  | binder identifier typing =>
    refine ⟨_, rfl, ?_⟩
    have hcalled : isCalled ⟨context, .binder identifier typing⟩ = false := by
      cases context with
      | frame outer frame => cases frame <;> rfl
      | item row left right => rfl
    simp [use, kind, Occurrence.kind, Node.span, hcalled]
  | _ => cases hnames

namespace Program

theorem uses_eq_mapIdx_visitsTo (program : Program) (symbol : Symbol) :
    program.uses symbol = (program.visitsTo symbol).mapIdx (Visit.use symbol) := by
  refine List.ext_getElem? fun ordinal => ?_
  have hsite := Visit.getElem?_filterMap_occurrence? symbol program.walk ordinal
  rw [filterMap_walk] at hsite
  rw [uses, List.getElem?_map, List.getElem?_zipIdx, List.getElem?_mapIdx, Nat.zero_add]
  change Option.map _ (Option.map _
      (program.occurrences.filter (Occurrence.names symbol))[ordinal]?) =
    Option.map _ (program.walk.filter (Visit.names symbol))[ordinal]?
  rw [hsite]
  cases hvisit : (program.walk.filter (Visit.names symbol))[ordinal]? with
  | none => rfl
  | some visit =>
    have hnames := (List.mem_filter.1 (List.mem_of_getElem? hvisit)).2
    obtain ⟨occurrence, hoccurrence, huse⟩ := Visit.exists_occurrence hnames ordinal
    rw [Option.bind_some, hoccurrence]
    exact congrArg some huse

end Program

namespace References

theorem mem_keys_extend {key name : String} {uses : List Reference} {references : References} :
    key ∈ (references.extend name uses).map Prod.fst ↔
      key ∈ references.map Prod.fst ∨ key = name := by
  induction references with
  | nil => simp [extend]
  | cons entry references ih =>
    obtain ⟨other, earlier⟩ := entry
    rw [extend]
    by_cases hother : other = name
    · subst hother
      simp only [if_true, List.map_cons, List.mem_cons]
      tauto
    · rw [if_neg hother, List.map_cons, List.mem_cons, ih, List.map_cons, List.mem_cons, or_assoc]

/-- A name that has uses already gets no second entry. -/
theorem nodup_keys_extend {references : References} (hnodup : (references.map Prod.fst).Nodup)
    (name : String) (uses : List Reference) :
    ((references.extend name uses).map Prod.fst).Nodup := by
  induction references with
  | nil => simp [extend]
  | cons entry references ih =>
    obtain ⟨other, earlier⟩ := entry
    obtain ⟨hother, hrest⟩ := List.nodup_cons.1 hnodup
    rw [extend]
    by_cases hname : other = name
    · rw [if_pos hname]
      exact hnodup
    · rw [if_neg hname, List.map_cons, List.nodup_cons, mem_keys_extend, not_or]
      exact ⟨⟨hother, hname⟩, ih hrest⟩

end References

/-- The names that have uses are those of the bindings, each of them once. -/
theorem Program.keys_references (program : Program) (bindings : List Binding) :
    ((program.references bindings).map Prod.fst).Nodup ∧
      ∀ name, name ∈ (program.references bindings).map Prod.fst ↔
        ∃ binding ∈ bindings, binding.imported = name := by
  induction bindings using List.reverseRecOn with
  | nil => simp [references]
  | append_singleton bindings binding ih =>
    obtain ⟨hnodup, hmem⟩ := ih
    rw [references, List.foldl_append]
    refine ⟨References.nodup_keys_extend hnodup _ _, fun name => ?_⟩
    refine References.mem_keys_extend.trans ?_
    rw [← references, hmem]
    simp [or_and_right, exists_or, eq_comm]

/-- Each imported name has one list of uses, that of its bindings one after the other. The uses of a
binding are the identifiers that a walk visits under its symbol: all of them, once and in order. The
marker calls of a single binding are those of its uses that are called, from the last to the
first. -/
theorem references_list_visits (program : Program) (bindings : List Binding) :
    ((program.references bindings).map Prod.fst).Nodup ∧
    (∀ name, name ∈ (program.references bindings).map Prod.fst ↔
      ∃ binding ∈ bindings, binding.imported = name) ∧
    (∀ name, (program.references bindings).get? name =
      if bindings.any fun binding => binding.imported = name then
        some ((bindings.filter fun binding => binding.imported = name).flatMap fun binding =>
          (program.visitsTo binding.symbol).mapIdx (Visit.use binding.symbol))
      else none) ∧
    (∀ symbol, program.scan symbol = (program.visitsTo symbol).mapIdx (Visit.use symbol)) ∧
    ∀ binding,
      let calls := (((program.visitsTo binding.symbol).mapIdx (Visit.use binding.symbol)).filter
        fun use => use.kind = .call).reverse
      (program.references [binding]).markerCalls =
          (if binding.imported = markerName then .ok calls
            else .error ⟨.dummy, .notImported⟩) ∧
        calls.Pairwise fun call next => next.ordinal < call.ordinal := by
  obtain ⟨hnodup, hkeys⟩ := program.keys_references bindings
  refine ⟨hnodup, hkeys, fun name => ?_, fun symbol => ?_, fun binding => ?_⟩
  · simp only [program.get?_references, program.uses_eq_mapIdx_visitsTo]
  · rw [program.scan_eq_uses, program.uses_eq_mapIdx_visitsTo]
  · intro calls
    have hcalls : calls =
        ((program.uses binding.symbol).filter fun use => use.kind = .call).reverse := by
      rw [program.uses_eq_mapIdx_visitsTo]
    constructor
    · rw [References.markerCalls, program.get?_references]
      by_cases hname : binding.imported = markerName
      · simp [hname, hcalls, List.filter_reverse]
      · simp [hname]
    · rw [hcalls, List.pairwise_reverse]
      exact (program.pairwise_uses binding.symbol).filter _

end MarkerExpansion
