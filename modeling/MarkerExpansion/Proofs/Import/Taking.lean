import MarkerExpansion.Proofs.Expansion.Rules
import MarkerExpansion.Proofs.Reference.Locate
import MarkerExpansion.Proofs.Reference.Scan

/-!
Which imports are taken out of a module, and what they bind.

The specifiers of an import are looked at twice: to see whether the marker is among them, and to
collect what they bind. The two agree on every kind of specifier, so that an import that is taken
binds the marker. A binding has a list of uses even if it is not used, which leaves no way for an
expansion to find that the marker was not imported.
-/

namespace MarkerExpansion

namespace ImportSpecifier

/-- What a specifier binds at run time, and under which name of the module. -/
inductive Binds : ImportSpecifier → Binding → Prop
  | renamed (imported : String) (symbol : Symbol) :
    Binds (.named (some imported) symbol false) ⟨imported, symbol⟩
  | named (symbol : Symbol) : Binds (.named none symbol false) ⟨symbol.name, symbol⟩
  | default (symbol : Symbol) : Binds (.default symbol) ⟨"default", symbol⟩

/-- What several specifiers bind, in their order. A specifier that binds nothing is passed over. -/
inductive BindEach : List ImportSpecifier → List Binding → Prop
  | nil : BindEach [] []
  | binds {specifier : ImportSpecifier} {specifiers : List ImportSpecifier} {binding : Binding}
      {bindings : List Binding} (hbinds : specifier.Binds binding)
      (hrest : BindEach specifiers bindings) :
    BindEach (specifier :: specifiers) (binding :: bindings)
  | nothing {specifier : ImportSpecifier} {specifiers : List ImportSpecifier}
      {bindings : List Binding} (hnothing : ∀ binding, ¬specifier.Binds binding)
      (hrest : BindEach specifiers bindings) :
    BindEach (specifier :: specifiers) bindings

theorem binding?_eq_some_iff {specifier : ImportSpecifier} {binding : Binding} :
    specifier.binding? = some binding ↔ specifier.Binds binding := by
  constructor
  · intro hbinding
    cases specifier with
    | named imported symbol typeOnly =>
      cases typeOnly with
      | true => cases hbinding
      | false =>
        cases hbinding
        cases imported with
        | none => exact .named symbol
        | some imported => exact .renamed imported symbol
    | default symbol =>
      cases hbinding
      exact .default symbol
    | whole symbol => cases hbinding
  · rintro (_ | _ | _) <;> rfl

theorem bindEach_filterMap (specifiers : List ImportSpecifier) :
    BindEach specifiers (specifiers.filterMap binding?) := by
  induction specifiers with
  | nil => exact .nil
  | cons specifier specifiers ih =>
    cases hbinding : specifier.binding? with
    | none =>
      rw [List.filterMap_cons_none hbinding]
      refine .nothing (fun binding hbinds => ?_) ih
      rw [binding?_eq_some_iff.2 hbinds] at hbinding
      cases hbinding
    | some binding =>
      rw [List.filterMap_cons_some hbinding]
      exact .binds (binding?_eq_some_iff.1 hbinding) ih

end ImportSpecifier

/-- An import that is taken: it is not of types only, its source matches, and one of its specifiers
that are not of types imports the marker, whatever the local name. -/
structure ImportDecl.Qualifies (pattern : Pattern) (decl : ImportDecl) : Prop where
  values : decl.typeOnly = false
  source : pattern.matchesText decl.source
  marker : ∃ imported symbol, .named imported symbol false ∈ decl.specifiers ∧
    imported.getD symbol.name = "decorate"

theorem ImportDecl.bringsMarker_iff {pattern : Pattern} {decl : ImportDecl} :
    decl.bringsMarker pattern ↔ decl.Qualifies pattern := by
  have hmarker : decl.specifiers.any ImportSpecifier.namesMarker ↔
      ∃ imported symbol, .named imported symbol false ∈ decl.specifiers ∧
        imported.getD symbol.name = "decorate" := by
    rw [List.any_eq_true]
    constructor
    · rintro ⟨specifier, hspecifier, hnames⟩
      unfold ImportSpecifier.namesMarker at hnames
      split at hnames
      · exact ⟨_, _, hspecifier, of_decide_eq_true hnames⟩
      · cases hnames
    · rintro ⟨imported, symbol, hspecifier, hname⟩
      exact ⟨_, hspecifier, decide_eq_true hname⟩
  rw [bringsMarker, Bool.and_eq_true, Bool.and_eq_true, hmarker, Bool.not_eq_true']
  exact ⟨fun ⟨⟨hvalues, hsource⟩, hmarker⟩ => ⟨hvalues, hsource, hmarker⟩,
    fun ⟨hvalues, hsource, hmarker⟩ => ⟨⟨hvalues, hsource⟩, hmarker⟩⟩

theorem Node.markerImport?_eq_some_iff {pattern : Pattern} {item : Node} {decl : ImportDecl} :
    item.markerImport? pattern = some decl ↔ item = .importDecl decl ∧ decl.Qualifies pattern := by
  unfold markerImport?
  split
  · next other =>
    rw [Option.ite_none_right_eq_some, Option.some.injEq, Node.importDecl.injEq,
      ImportDecl.bringsMarker_iff]
    constructor
    · rintro ⟨hqualifies, rfl⟩
      exact ⟨rfl, hqualifies⟩
    · rintro ⟨rfl, hqualifies⟩
      exact ⟨hqualifies, rfl⟩
  · next hother =>
    constructor
    · intro hnone
      cases hnone
    · rintro ⟨rfl, _⟩
      exact absurd rfl (hother decl)

/-- The items of a module, those that remain when the imports of the marker are taken, and what
these bind. -/
inductive Taken (pattern : Pattern) : List Node → List Node → List Binding → Prop
  | nil : Taken pattern [] [] []
  | taken {decl : ImportDecl} {items remaining : List Node} {bindings others : List Binding}
      (hdecl : decl.Qualifies pattern)
      (hbindings : ImportSpecifier.BindEach decl.specifiers bindings)
      (hrest : Taken pattern items remaining others) :
    Taken pattern (.importDecl decl :: items) remaining (bindings ++ others)
  | kept {item : Node} {items remaining : List Node} {bindings : List Binding}
      (hitem : ∀ decl, item = .importDecl decl → ¬decl.Qualifies pattern)
      (hrest : Taken pattern items remaining bindings) :
    Taken pattern (item :: items) (item :: remaining) bindings

theorem taken_filter (pattern : Pattern) (items : List Node) :
    Taken pattern items (items.filter fun item => (item.markerImport? pattern).isNone)
      ((items.filterMap (Node.markerImport? pattern)).flatMap ImportDecl.bindings) := by
  induction items with
  | nil => exact .nil
  | cons item items ih =>
    cases himport : item.markerImport? pattern with
    | none =>
      rw [List.filter_cons_of_pos (by simp [himport]), List.filterMap_cons_none himport]
      refine .kept (fun decl hdecl hqualifies => ?_) ih
      rw [Node.markerImport?_eq_some_iff.2 ⟨hdecl, hqualifies⟩] at himport
      cases himport
    | some decl =>
      rw [List.filter_cons_of_neg (by simp [himport]), List.filterMap_cons_some himport,
        List.flatMap_cons]
      obtain ⟨rfl, hqualifies⟩ := Node.markerImport?_eq_some_iff.1 himport
      exact .taken hqualifies (ImportSpecifier.bindEach_filterMap decl.specifiers) ih

namespace Program

/-- Whether a program is a module with an import that is taken. -/
def ImportsMarker (pattern : Pattern) (program : Program) : Prop :=
  program.kind = .module ∧ ∃ decl, .importDecl decl ∈ program.body ∧ decl.Qualifies pattern

theorem mem_markerImports {program : Program} {pattern : Pattern} {decl : ImportDecl} :
    decl ∈ program.markerImports pattern ↔
      program.kind = .module ∧ .importDecl decl ∈ program.body ∧ decl.Qualifies pattern := by
  unfold markerImports
  cases program.kind with
  | script => simp
  | module =>
    simp only [true_and, List.mem_filterMap, Node.markerImport?_eq_some_iff]
    constructor
    · rintro ⟨_, hitem, rfl, hqualifies⟩
      exact ⟨hitem, hqualifies⟩
    · rintro ⟨hitem, hqualifies⟩
      exact ⟨_, hitem, rfl, hqualifies⟩

/-- Either there is nothing to take and the program stays as it is, or all imports of the marker are
taken and the other items stay. -/
theorem takeImports_cases (program : Program) (pattern : Pattern) :
    (¬program.ImportsMarker pattern ∧ program.takeImports pattern = (none, program)) ∨
      (program.ImportsMarker pattern ∧ ∃ bindings remaining,
        program.takeImports pattern = (some bindings, { program with body := remaining }) ∧
          Taken pattern program.body remaining bindings) := by
  unfold takeImports
  cases himports : program.markerImports pattern with
  | nil =>
    refine .inl ⟨?_, rfl⟩
    rintro ⟨hmodule, decl, hdecl⟩
    have hmem := mem_markerImports.2 ⟨hmodule, hdecl⟩
    rw [himports] at hmem
    cases hmem
  | cons decl decls =>
    have hmem : decl ∈ program.markerImports pattern := himports ▸ List.mem_cons_self
    obtain ⟨hmodule, hdecl⟩ := mem_markerImports.1 hmem
    simp only [markerImports, hmodule] at himports
    have htaken := taken_filter pattern program.body
    rw [himports] at htaken
    exact .inr ⟨⟨hmodule, decl, hdecl⟩, _, _, rfl, htaken⟩

end Program

theorem Cause.message_invalidPattern (text : String) (failure : Pattern.Failure) :
    (Cause.invalidPattern text failure).message ≠ Cause.notImported.message := by
  have htext : (Cause.invalidPattern text failure).message =
      "Invalid macro source pattern `" ++ text ++ "`: " ++ failure.report text := rfl
  have hother : Cause.notImported.message = "`decorate` is not imported from the macro" := rfl
  intro hmessage
  rw [htext, hother] at hmessage
  have hfirst := congrArg (fun message => message.toList.head?) hmessage
  simp at hfirst

theorem Config.cause_of_pattern {config : Config} {error : Error}
    (hpattern : config.pattern = .error error) :
    ∃ failure, error.cause = .invalidPattern config.sourcePattern failure := by
  unfold pattern at hpattern
  split at hpattern
  · cases hpattern
  · next failure _ =>
    cases hpattern
    exact ⟨failure, rfl⟩

theorem Rule.text_ne_notImported (rule : Rule) : rule.text ≠ Cause.notImported.message := by
  cases rule <;> decide

namespace Program

variable {program : Program}

theorem message_of_enclosingStatement {reference : Reference} {error : Error}
    (hslot : program.enclosingStatement reference = .error error) :
    error.message ≠ Cause.notImported.message := by
  have hmessages : ∀ cause ∈ [Cause.notFound, .noStatement, .outsideBlock],
      cause.message ≠ Cause.notImported.message := by decide
  apply hmessages
  rw [enclosingStatement_eq_elim] at hslot
  cases hsite : (program.occurrencesOf reference.symbol)[reference.ordinal]? with
  | none =>
    rw [hsite] at hslot
    cases hslot
    simp
  | some occurrence =>
    rw [hsite, Option.elim_some, Occurrence.locate] at hslot
    split at hslot
    · cases hslot
      simp
    · cases hanchor : occurrence.anchor with
      | «at» slot =>
        rw [hanchor] at hslot
        cases hslot
      | _ =>
        rw [hanchor] at hslot
        cases hslot
        simp

theorem message_of_refusal? {slot : Slot} {span : Span} {text : String}
    (hrefusal : program.refusal? slot = some (span, text)) :
    text ≠ Cause.notImported.message := by
  unfold refusal? at hrefusal
  cases hstatement : (program.lists[slot.container]?).bind fun items =>
      Statement.ofItems? items slot.index with
  | none =>
    rw [hstatement] at hrefusal
    cases hrefusal
    decide
  | some statement =>
    rw [hstatement] at hrefusal
    obtain ⟨rule, _, hrule⟩ := List.exists_of_findSome?_eq_some hrefusal
    obtain ⟨_, _, hreport⟩ := Option.map_eq_some_iff.1 hrule
    cases hreport
    exact rule.text_ne_notImported

/-- Once there are references for the marker, nothing says that it was not imported. -/
theorem message_of_expand {references : References} {calls : List Reference} {error : Error}
    (hcalls : references.markerCalls = .ok calls)
    (hfailure : (program.expand references).failure = some error) :
    error.message ≠ Cause.notImported.message := by
  obtain ⟨hnone, _⟩ | ⟨_, reference, _, _, _, hreference⟩ := failure_expand hfailure
  · rw [hcalls] at hnone
    cases hnone
  · obtain hslot | ⟨slot, _, hrefusal⟩ := refusal?_of_decorateReference hreference
    · exact message_of_enclosingStatement hslot
    · exact message_of_refusal? hrefusal

theorem message_of_expandImports {config : Config} {error : Error}
    (hfailure : (program.expandImports config).failure = some error) :
    error.message ≠ Cause.notImported.message := by
  unfold expandImports at hfailure
  split at hfailure
  · next hpattern =>
    cases hfailure
    obtain ⟨failure, hcause⟩ := Config.cause_of_pattern hpattern
    rw [Error.message, hcause]
    exact Cause.message_invalidPattern _ failure
  · next pattern _ =>
    split at hfailure
    · cases hfailure
    · next bindings taken htake =>
      have hcalls := markerCalls_references taken (imported_of_takeImports htake)
      exact message_of_expand hcalls hfailure

end Program

/-- The imports of the marker are taken, all of them and nothing else. Whatever they are, they bind
the marker, so that every program has a list of its uses, and no expansion fails for the lack of
it. -/
theorem imports_taken_bind_marker (program : Program) (pattern : Pattern) :
    ((¬program.ImportsMarker pattern ∧ program.takeImports pattern = (none, program)) ∨
      (program.ImportsMarker pattern ∧ ∃ bindings remaining,
        program.takeImports pattern = (some bindings, { program with body := remaining }) ∧
          Taken pattern program.body remaining bindings ∧
          ∀ other : Program, "decorate" ∈ (other.references bindings).map Prod.fst)) ∧
    ∀ config, (program.expandImports config).failure.map Error.message ≠
      some "`decorate` is not imported from the macro" := by
  constructor
  · obtain hnone | ⟨himports, bindings, remaining, htake, htaken⟩ :=
      program.takeImports_cases pattern
    · exact .inl hnone
    · refine .inr ⟨himports, bindings, remaining, htake, htaken, fun other => ?_⟩
      obtain ⟨binding, hbinding, hname⟩ :=
        List.any_eq_true.1 (Program.imported_of_takeImports htake)
      exact ((other.keys_references bindings).2 _).2 ⟨binding, hbinding, of_decide_eq_true hname⟩
  · intro config hmessage
    obtain ⟨error, hfailure, hmessage⟩ := Option.map_eq_some_iff.1 hmessage
    exact Program.message_of_expandImports hfailure hmessage

end MarkerExpansion
