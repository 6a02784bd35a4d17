import MarkerExpansion.Proofs.Decoration.Conservation
import MarkerExpansion.Proofs.Expansion.Consumed

/-!
The marker calls that an expansion leaves behind.

The calls to carry out are listed before the first of them changes the program. What a call puts
into a declaration are arguments and functions that come after it, whose own calls are carried out
already, and one new call, of the decorator.
-/

namespace MarkerExpansion

/-- Whether a site is the callee of a call of `symbol`. -/
def Site.calls (symbol : Symbol) (site : Site) : Bool := site.isCallee && site.ident.symbol = symbol

theorem map_kind_usesFrom (symbol : Symbol) (start : Nat) (occurrences : List Occurrence) :
    (usesFrom symbol start occurrences).map Reference.kind =
      (occurrences.filter (Occurrence.names symbol)).map Occurrence.kind := by
  have hrecords := congrArg (List.map Prod.snd) (map_record_usesFrom symbol start occurrences)
  rw [Site.records_map_site, List.map_map, List.map_map] at hrecords
  exact hrecords

/-- How many marker calls there are is known from the sites. -/
theorem length_callsFrom {symbol : Symbol} (hname : symbol.name = markerName) (start : Nat)
    (occurrences : List Occurrence) :
    (callsFrom symbol start occurrences).length =
      (occurrences.map Occurrence.site).countP (Site.calls symbol) := by
  have hkinds := congrArg (List.countP fun kind => kind = .call)
    (map_kind_usesFrom symbol start occurrences)
  rw [List.countP_map, List.countP_map, List.countP_filter] at hkinds
  rw [callsFrom, ← List.countP_eq_length_filter, List.countP_map]
  refine hkinds.trans (List.countP_congr ?_)
  intro occurrence _
  simp only [Function.comp_apply, Occurrence.kind, Occurrence.names, Occurrence.site, Site.calls]
  by_cases hsymbol : occurrence.ident.symbol = symbol <;> simp [hsymbol, hname]

theorem callsFrom_eq_nil {symbol : Symbol} (hname : symbol.name = markerName) {start : Nat}
    {occurrences : List Occurrence} : callsFrom symbol start occurrences = [] ↔
      ∀ site ∈ occurrences.map Occurrence.site, ¬site.calls symbol := by
  rw [← List.length_eq_zero_iff, length_callsFrom hname, List.countP_eq_zero]

/-- Where the first site is the callee of the only call, no other one is. -/
theorem not_calls_of_callsFrom {symbol : Symbol} (hname : symbol.name = markerName) {start : Nat}
    {occurrences : List Occurrence} {reference : Reference} {callee : Ident} {others : List Site}
    (hcall : callsFrom symbol start occurrences = [reference])
    (hsites : occurrences.map Occurrence.site = ⟨callee, true⟩ :: others)
    (hcallee : callee.symbol = symbol) : ∀ site ∈ others, ¬site.calls symbol := by
  have hcount := length_callsFrom hname start occurrences
  rw [hcall, hsites, List.countP_cons_of_pos (by simp [Site.calls, hcallee]),
    List.length_singleton] at hcount
  exact List.countP_eq_zero.1 (by omega)

theorem ordinal_of_mem_callsFrom {symbol : Symbol} {start : Nat} {occurrences : List Occurrence}
    {reference : Reference} (hreference : reference ∈ callsFrom symbol start occurrences) :
    start ≤ reference.ordinal ∧
      reference.ordinal < start + occurrences.countP (Occurrence.names symbol) := by
  have hmem : reference.ordinal ∈ (usesFrom symbol start occurrences).map Reference.ordinal :=
    List.mem_map_of_mem (List.mem_filter.1 hreference).1
  rw [map_ordinal_usesFrom] at hmem
  exact List.mem_range'_1.1 hmem

/-- Both parts of a program at a place: what a walk meets before it, and what comes after that. -/
theorem Row.exists_later (row : Row) (left right nodes : List Node) :
    ∃ later, (row.fill (left ++ nodes)).occurrences =
        (Context.item row left right).before ++ later ∧
      later.map Occurrence.site = Node.sitesOf nodes ++ row.sitesAfter := by
  obtain ⟨later, hlater⟩ := row.before_item_prefix left right nodes
  have hsites := row.map_site_fill (left ++ nodes)
  rw [← hlater] at hsites
  exact ⟨later, hlater.symm, by simpa using hsites⟩

theorem Target.sitesOf_withInit (target : Target) (init : Node) :
    Node.sitesOf (target.withInit init) =
      Node.sitesOf target.before ++ target.pattern.sites false ++ init.sites false
        ++ Node.sitesOf target.after := by
  simp [withInit, Declaration.sites_toNode]

/-- The call that takes the place of a function has the sites of the arguments and of the function,
and the decorator. -/
theorem MarkerCall.sites_expansion_subset (call : MarkerCall) (function : Node) :
    (call.expansion function).sites false ⊆
      ⟨call.decorator, true⟩ :: (Node.sitesOf call.arguments ++ function.sites false) := by
  intro site hsite
  simp only [expansion, Node.sites, List.cons_append, List.nil_append, List.mem_cons] at hsite
  obtain rfl | hsite := hsite
  · exact List.mem_cons_self
  · refine List.mem_cons_of_mem _ (List.mem_append.2 ?_)
    obtain ⟨filled, hfilled, hsite⟩ := Node.mem_sitesOf.1 hsite
    obtain ⟨argument, hargument, rfl⟩ := List.mem_map.1 hfilled
    rw [fill] at hsite
    split at hsite
    · exact .inr (by simpa using hsite)
    · exact .inl (Node.mem_sitesOf.2 ⟨argument, hargument, hsite⟩)

/-- The list that a marker call leaves has the sites of the call, its callee apart, and of the list,
and the decorator. -/
theorem sitesOf_decorateAt_zero {span callSpan : Span} {expression : Node} {number : Nat}
    {callee : Ident} {arguments right new : List Node} {typeArguments : Option Node}
    {decorated : Decorated}
    (hexpression : expression.stripParens =
      .call callSpan number (.ident callee) arguments typeArguments)
    (hdecorate : decorateAt (.exprStmt span expression :: right) 0 = .ok (new, decorated)) :
    ∃ decorator others, expression.sites false = ⟨callee, true⟩ :: others ∧
      decorator.symbol.name = decorated.decorator ∧
      Node.sitesOf new ⊆ ⟨decorator, true⟩ :: (others ++ Node.sitesOf right) := by
  obtain ⟨_, _, target, call, hstatement, hfind, hcall, rfl, rfl⟩ :=
    exists_call_of_decorateAt_zero hdecorate
  cases hstatement
  obtain ⟨_, _, _, _, _, hread⟩ := MarkerCall.of_ofStatement hcall
  rw [hexpression] at hread
  cases hread
  refine ⟨call.decorator, ⟨call.decorator, false⟩ :: (Node.sitesOf call.arguments
    ++ typeArguments.elim [] (Node.sites false)), ?_, rfl, ?_⟩
  · rw [Node.sites_of_stripParens hexpression]
    simp
  · rw [← Target.withInit_init hfind, Target.sitesOf_withInit, Target.sitesOf_withInit]
    intro site hsite
    have hexpansion : site ∈ (call.expansion target.init).sites false → _ :=
      fun hmem => call.sites_expansion_subset target.init hmem
    simp only [List.mem_append, List.mem_cons] at hsite hexpansion ⊢
    tauto

namespace Program

/-- Of the calls in a program, the last one and those before it are told apart by their numbers. -/
theorem callsFrom_split {program : Program} {symbol : Symbol} {reference : Reference}
    {pending : List Reference} {before later : List Occurrence}
    (hcalls : (callsFrom symbol 0 program.occurrences).reverse = reference :: pending)
    (hoccurrences : program.occurrences = before ++ later)
    (hordinal : before.countP (Occurrence.names symbol) = reference.ordinal) :
    (callsFrom symbol 0 before).reverse = pending ∧
      callsFrom symbol reference.ordinal later = [reference] := by
  have hpairwise := program.pairwise_calls symbol
  rw [hcalls, List.pairwise_cons] at hpairwise
  rw [hoccurrences, callsFrom_append, Nat.zero_add, hordinal, List.reverse_append] at hcalls
  -- Before the place all numbers are smaller than that of the last call, from there on none is.
  have hbefore : ∀ use ∈ callsFrom symbol 0 before, use.ordinal < reference.ordinal := by
    intro use huse
    have hbound := (ordinal_of_mem_callsFrom huse).2
    omega
  have hlater : ∀ use ∈ callsFrom symbol reference.ordinal later,
      ¬use.ordinal < reference.ordinal := by
    intro use huse
    have hbound := (ordinal_of_mem_callsFrom huse).1
    omega
  have hsmaller := congrArg (List.filter fun use => use.ordinal < reference.ordinal) hcalls
  rw [List.filter_append, List.filter_eq_nil_iff.2 (by simpa using hlater), List.nil_append,
    List.filter_eq_self.2 (by simpa using hbefore), List.filter_cons_of_neg (by simp),
    List.filter_eq_self.2 (by simpa using hpairwise.1)] at hsmaller
  refine ⟨hsmaller, ?_⟩
  rw [hsmaller] at hcalls
  have hlast : (callsFrom symbol reference.ordinal later).reverse = [reference] :=
    List.append_cancel_right (hcalls.trans (List.singleton_append).symm)
  simpa using congrArg List.reverse hlast

/-- A marker call that is a statement takes itself away and adds no other, unless the decorator is
the marker itself. -/
theorem callsFrom_decorate {program edited : Program} {symbol : Symbol}
    (hname : symbol.name = markerName) {slot : Slot} (statement : StatementAt program slot)
    {reference : Reference} {pending : List Reference}
    (hcalls : (callsFrom symbol 0 program.occurrences).reverse = reference :: pending)
    (hordinal : statement.place.before.countP (Occurrence.names symbol) = reference.ordinal)
    {span : Span} {number : Nat} {callee : Ident} {arguments : List Node}
    {typeArguments : Option Node}
    (hexpression : statement.expression.stripParens =
      .call span number (.ident callee) arguments typeArguments)
    (hcallee : callee.symbol = symbol) {decorated : Decorated}
    (hdecorate : program.decorate slot = .ok (edited, decorated))
    (hdecorator : decorated.decorator ≠ markerName) :
    (callsFrom symbol 0 edited.occurrences).reverse = pending := by
  obtain ⟨new, hnew, rfl⟩ := statement.exists_new_of_decorate hdecorate
  obtain ⟨decorator, others, hsites, hdecoratorName, hsubset⟩ :=
    sitesOf_decorateAt_zero hexpression hnew
  obtain ⟨later, hlater, hlaterSites⟩ := statement.row.exists_later statement.left
    statement.right (.exprStmt statement.span statement.expression :: statement.right)
  obtain ⟨last, hlast, hlastSites⟩ := statement.row.exists_later statement.left
    statement.right new
  rw [statement.fill] at hlater
  obtain ⟨hbefore, hcall⟩ := callsFrom_split hcalls hlater hordinal
  -- The call itself is the only one from its place on.
  have hothers : ∀ site ∈ others ++ Node.sitesOf statement.right ++ statement.row.sitesAfter,
      ¬site.calls symbol :=
    not_calls_of_callsFrom hname hcall (hlaterSites.trans (by simp [hsites])) hcallee
  have hnone : callsFrom symbol reference.ordinal last = [] := by
    rw [callsFrom_eq_nil hname, hlastSites]
    intro site hsite
    obtain hsite | hafter := List.mem_append.1 hsite
    · obtain rfl | hsite := List.mem_cons.1 (hsubset hsite)
      · intro hcalls
        have hsymbol : decorator.symbol = symbol := by simpa [Site.calls] using hcalls
        rw [← hdecoratorName, hsymbol] at hdecorator
        exact hdecorator hname
      · exact hothers site (List.mem_append_left _ hsite)
    · exact hothers site (List.mem_append_right _ hafter)
  have hstart : (Context.item statement.row statement.left statement.right).before.countP
    (Occurrence.names symbol) = reference.ordinal := hordinal
  rw [hlast, callsFrom_append, Nat.zero_add, hstart, hnone, List.append_nil]
  exact hbefore

/-- A call that is a statement is numbered by what comes before the statement. -/
theorem exists_statement_of_calleeSlot? {program : Program} {symbol : Symbol}
    {reference : Reference} {slot : Slot} (huse : reference ∈ program.uses symbol)
    (hcallee : program.calleeSlot? reference = some slot) :
    ∃ statement : StatementAt program slot,
      statement.place.before.countP (Occurrence.names symbol) = reference.ordinal := by
  have hslot := enclosingStatement_of_calleeSlot? huse hcallee
  obtain ⟨visit, occurrence, hvisit, hoccurrence, rfl, rfl⟩ := exists_visit_of_mem_uses huse
  obtain ⟨statement, _, hplace⟩ := Visit.exists_statement hvisit hoccurrence hslot
  rw [calleeSlot?, Visit.visitOf?_reference hvisit hoccurrence, Option.bind_some] at hcallee
  refine ⟨statement, ?_⟩
  rw [hplace, Context.beforeStatement_of_calleeSlot? hcallee]
  rfl

/-- Where all marker calls are statements and no decorator is the marker, the calls that are in the
program at any moment are the pending ones. -/
theorem CallsAreStatements.calls_left {program current : Program} {symbol : Symbol}
    {pending : List Reference} {done : List Decorated} (hname : symbol.name = markerName)
    (hcalls : program.CallsAreStatements symbol)
    (hreaches : program.Reaches (callsFrom symbol 0 program.occurrences).reverse current pending
      done) (hdecorators : ∀ decorated ∈ done, decorated.decorator ≠ markerName) :
    (callsFrom symbol 0 current.occurrences).reverse = pending := by
  induction hreaches with
  | start => rfl
  | step hcurrent hstep ih =>
    have hleft := ih fun decorated hdecorated =>
      hdecorators decorated (List.mem_append_left _ hdecorated)
    obtain ⟨slot, hslot, hdecorate⟩ := decorateReference_eq_ok.1 hstep
    obtain ⟨huse, hkind, hcallee⟩ := hcalls.calleeSlot? hcurrent List.mem_cons_self hslot
    obtain ⟨statement, hordinal⟩ := exists_statement_of_calleeSlot? huse hcallee
    obtain ⟨_, _, _, _, _, hexpression, hsymbol, _⟩ := statement.exists_call huse hkind hcallee
    exact callsFrom_decorate hname statement hleft hordinal hexpression hsymbol hdecorate
      (hdecorators _ (by simp))

end Program

/-- An expansion that succeeds leaves no marker call in a plainly marked program, if no marker call
names the marker as its decorator. -/
theorem no_marker_call_left {program taken : Program} {config : Config} {pattern : Pattern}
    {bindings : List Binding} (hpattern : config.pattern = .ok pattern)
    (htaken : program.takeImports pattern = (some bindings, taken))
    (hmarked : taken.PlainlyMarked bindings)
    (hsuccess : (program.expandImports config).failure = none)
    (hdecorators : ∀ decorated ∈ (program.expandImports config).decorated,
      decorated.decorator ≠ markerName) :
    ∃ uses, ((program.expandImports config).program.references bindings).get? markerName =
        some uses ∧
      ∀ use ∈ uses, use.kind ≠ .call := by
  obtain ⟨left, hlast, hleft⟩ := Program.exists_importsReach_last hpattern htaken
  obtain ⟨calls, hcalls, hreaches⟩ := hlast.reaches
  apply References.exists_uses_of_markerCalls
  obtain hnone | ⟨symbol, hname, hstatements, hlisted⟩ :=
    hmarked.exists_symbol (Program.imported_of_takeImports htaken)
  · exact hnone _
  · rw [hlisted] at hcalls ⊢
    cases hcalls
    rw [hleft hsuccess] at hreaches
    rw [hstatements.calls_left hname hreaches hdecorators]

theorem no_marker_call_left_sample :
    let program := Sample.importing Sample.program
    let expansion := program.expandImports .default
    Sample.program.PlainlyMarked [⟨markerName, Sample.marker⟩] ∧
    expansion.failure = none ∧ expansion.decorated.length = 3 ∧
    ∃ uses, (expansion.program.references [⟨markerName, Sample.marker⟩]).get? markerName =
        some uses ∧
      ∀ use ∈ uses, use.kind ≠ .call := by
  intro program expansion
  have hsuccess : expansion.failure = none := by with_unfolding_all rfl
  have hdecorators : expansion.decorated.map Decorated.decorator = ["wrap", "memo", "log"] := by
    with_unfolding_all rfl
  refine ⟨Sample.plainlyMarked, hsuccess, by simpa using congrArg List.length hdecorators, ?_⟩
  refine no_marker_call_left (by with_unfolding_all rfl) (by with_unfolding_all rfl)
    Sample.plainlyMarked hsuccess ?_
  intro decorated hdecorated hdecorator
  have hmem : decorated.decorator ∈ ["wrap", "memo", "log"] :=
    hdecorators ▸ List.mem_map_of_mem hdecorated
  rw [hdecorator] at hmem
  revert hmem
  decide

/-- A marker call that is an argument of another call stays, and so does the call that the marker
becomes as its own decorator. -/
theorem marker_call_left_behind :
    let argument := (Sample.importing (Sample.decorating (Sample.name "register" 0)
      (Sample.name "log" 9) (Sample.innerCall 14))).expandImports .default
    let itself := (Sample.importing (Sample.decorating (Sample.markerAt 0) (Sample.markerAt 9)
      (Sample.target 19))).expandImports .default
    (argument.failure = none ∧
      ∃ uses, (argument.program.references [⟨markerName, Sample.marker⟩]).get? markerName =
          some uses ∧
        ∃ use ∈ uses, use.kind = .call) ∧
    itself.failure = none ∧
      ∃ uses, (itself.program.references [⟨markerName, Sample.marker⟩]).get? markerName =
          some uses ∧
        ∃ use ∈ uses, use.kind = .call := by
  refine ⟨⟨by with_unfolding_all rfl, _, by with_unfolding_all rfl, ?_⟩,
    by with_unfolding_all rfl, _, by with_unfolding_all rfl, ?_⟩
  all_goals decide +kernel

end MarkerExpansion
